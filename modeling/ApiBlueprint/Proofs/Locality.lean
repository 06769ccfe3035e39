import ApiBlueprint.Proofs.Resolution

/-! Places are local to lines. Whole lines in front of a text only shift its line numbers, and what
follows whole lines does not show in them. -/
namespace ApiBlueprint.Text

/-- All lines of the text are closed, but for the empty one at its end. -/
def IsClosed (text : List Char) : Prop := text = [] ∨ text.getLast? = some '\n'

private theorem prependChar_ne_nil (c : Char) (cuts : List (List Char × Ending)) :
    prependChar c cuts ≠ [] := by
  cases cuts with
  | nil => exact List.cons_ne_nil _ _
  | cons cut rest =>
    rw [prependChar]
    split
    · exact List.cons_ne_nil _ _
    · split <;> exact List.cons_ne_nil _ _

private theorem prependChar_append (c : Char) {cuts : List (List Char × Ending)} (h : cuts ≠ [])
    (rest : List (List Char × Ending)) :
    prependChar c (cuts ++ rest) = prependChar c cuts ++ rest := by
  obtain ⟨⟨content, ending⟩, tail, rfl⟩ := List.exists_cons_of_ne_nil h
  rw [List.cons_append, prependChar, prependChar]
  split
  · rfl
  · split <;> rfl

/-- Only the first line is looked at when more is put in front of a text. -/
private theorem foldr_prependChar_append (text : List Char) {cuts : List (List Char × Ending)}
    (h : cuts ≠ []) (rest : List (List Char × Ending)) :
    text.foldr prependChar (cuts ++ rest) = text.foldr prependChar cuts ++ rest := by
  have hne : ∀ text : List Char, text.foldr prependChar cuts ≠ [] := by
    intro text
    cases text with
    | nil => exact h
    | cons c text => exact prependChar_ne_nil c _
  induction text with
  | nil => rfl
  | cons c text ih => rw [List.foldr_cons, List.foldr_cons, ih, prependChar_append c (hne text)]

private theorem cutLines_feed (init tail : List Char) :
    cutLines (init ++ '\n' :: tail) = init.foldr prependChar [([], .lf)] ++ cutLines tail := by
  have hfeed : prependChar '\n' (cutLines tail) = [([], .lf)] ++ cutLines tail := by
    obtain ⟨⟨content, ending⟩, rest, hcuts⟩ := List.exists_cons_of_ne_nil (cutLines_ne_nil tail)
    rw [hcuts]
    rfl
  calc cutLines (init ++ '\n' :: tail)
      = init.foldr prependChar (prependChar '\n' (cutLines tail)) := List.foldr_append ..
    _ = init.foldr prependChar ([([], .lf)] ++ cutLines tail) := by rw [hfeed]
    _ = init.foldr prependChar [([], .lf)] ++ cutLines tail :=
      foldr_prependChar_append init (List.cons_ne_nil _ _) _

/-- A closed text has the same lines whatever follows it. -/
theorem IsClosed.exists_cuts {head : List Char} (h : IsClosed head) :
    ∃ cuts, joined cuts = head ∧ cuts.length = head.count '\n' ∧
      ∀ tail, cutLines (head ++ tail) = cuts ++ cutLines tail := by
  rcases h with rfl | hlast
  · exact ⟨[], rfl, rfl, fun tail => rfl⟩
  · obtain ⟨init, rfl⟩ := List.getLast?_eq_some_iff.mp hlast
    have hcuts (tail : List Char) : cutLines (init ++ ['\n'] ++ tail) =
        init.foldr prependChar [([], .lf)] ++ cutLines tail := by
      rw [List.append_assoc]
      exact cutLines_feed init tail
    have halone := hcuts []
    rw [List.append_nil] at halone
    refine ⟨_, ?_, ?_, hcuts⟩
    · have hjoined := joined_cutLines (init ++ ['\n'])
      rw [halone, joined_append] at hjoined
      exact (List.append_nil _).symm.trans hjoined
    · have hlength := length_cutLines (init ++ ['\n'])
      rw [halone, List.length_append] at hlength
      exact Nat.succ.inj hlength

namespace Lines.At
variable {lines whole : Lines} {offset : Nat} {before after : List (List Char × Ending)}
  {content : List Char} {ending : Ending} (h : lines.At offset before content ending after)
include h

/-- The line of an offset stays the line of that place when whole lines are put in front. -/
theorem prepend {head : List Char} (hhead : IsClosed head) (hle : offset ≤ lines.size)
    (htext : whole.text = head ++ lines.text) :
    ∃ cuts, joined cuts = head ∧ cuts.length = head.count '\n' ∧
      whole.At (byteCount head + offset) (cuts ++ before) content ending after := by
  obtain ⟨cuts, hjoined, hlength, hcuts⟩ := hhead.exists_cuts
  refine ⟨cuts, hjoined, hlength, .of_cut ?_ ?_ ?_⟩
  · rw [size, htext, byteCount_append]
    exact Nat.add_le_add_left hle _
  · rw [htext, hcuts, h.cut, List.append_assoc]
  · rw [htext, bytes_append, ← length_bytes, List.take_length_add_append, List.count_append,
      h.count_take_eq, count_feed_bytes, List.length_append, hlength]

/-- The line of an offset stays the same when text is put behind the feed that closes it. -/
theorem append {tail : List Char} (hclosed : IsClosed lines.text) (hlt : offset < lines.size)
    (htext : whole.text = lines.text ++ tail) :
    ∃ after', whole.At offset before content ending after' := by
  obtain ⟨cuts, hjoined, -, hcuts⟩ := hclosed.exists_cuts
  have halone : before ++ (content, ending) :: after = cuts ++ cutLines [] := by
    rw [← h.cut, ← hcuts [], List.append_nil]
  -- The offset is on one of the closed lines, as the empty one after them starts at the end.
  have hin (more : List (List Char × Ending)) : before ≠ cuts ++ more := by
    rintro rfl
    have hstart := h.start_le
    rw [joined_append, byteCount_append, hjoined] at hstart
    exact Nat.not_le_of_lt hlt (Nat.le_trans (Nat.le_add_right ..) hstart)
  obtain ⟨following, hfollowing⟩ :
      ∃ following, cuts = before ++ (content, ending) :: following := by
    rcases List.append_eq_append_iff.mp halone with ⟨rest, hsplit, hrest⟩ | ⟨rest, hsplit, -⟩
    · cases rest with
      | nil => exact absurd (by rw [hsplit, List.append_nil, List.append_nil]) (hin [])
      | cons line following =>
        rw [(List.cons.inj hrest).1]
        exact ⟨following, hsplit⟩
    · exact absurd hsplit (hin rest)
  refine ⟨following ++ cutLines tail, .of_cut ?_ ?_ ?_⟩
  · rw [size, htext, byteCount_append]
    exact Nat.le_trans (Nat.le_of_lt hlt) (Nat.le_add_right ..)
  · rw [htext, hcuts, hfollowing, List.append_assoc, List.cons_append]
  · have hwithin : offset ≤ (bytes lines.text).length := by
      rw [length_bytes]
      exact Nat.le_of_lt hlt
    rw [htext, bytes_append, List.take_append_of_le_length hwithin, h.count_take_eq]

end Lines.At

end ApiBlueprint.Text

namespace ApiBlueprint.Source
open Text

section
variable {head tail : String}

/-- Behind whole lines a span is placed as in the text without them, further down. -/
theorem placeSpan_prepend (hhead : IsClosed head.toList) {span shifted : Span}
    (hle : span.offset.toNat ≤ (Lines.ofText tail).size)
    (hoffset : shifted.offset.toNat = byteCount head.toList + span.offset.toNat)
    (hlength : shifted.length = span.length) :
    ∃ index column content,
      placeSpan (Lines.ofText tail) span = .onLine index column span.length.toNat content ∧
      placeSpan (Lines.ofText (head ++ tail)) shifted =
        .onLine (head.toList.count '\n' + index) column span.length.toNat content ∧
      head.toList.count '\n' + index ≤ (Lines.ofText (head ++ tail)).size := by
  obtain ⟨before, content, ending, after, h⟩ := (Lines.ofText tail).exists_at hle
  have htext : (Lines.ofText (head ++ tail)).text = head.toList ++ (Lines.ofText tail).text :=
    String.toList_append
  obtain ⟨cuts, hjoined, hcount, hwhole⟩ := h.prepend hhead hle htext
  rw [← hoffset] at hwhole
  have hcolumn : shifted.offset.toNat - byteCount (joined (cuts ++ before)) =
      span.offset.toNat - byteCount (joined before) := by
    rw [joined_append, byteCount_append, hjoined, hoffset, Nat.add_sub_add_left]
  refine ⟨_, _, _, placeSpan_eq h, ?_, ?_⟩
  · rw [placeSpan_eq hwhole, hcolumn, hlength, List.length_append, hcount]
  · rw [← hcount, ← List.length_append]
    exact hwhole.length_before_le

/-- What follows whole lines does not matter for a span that starts in them. -/
theorem placeSpan_append (hhead : IsClosed head.toList) {span : Span}
    (hlt : span.offset.toNat < (Lines.ofText head).size) :
    placeSpan (Lines.ofText (head ++ tail)) span = placeSpan (Lines.ofText head) span := by
  obtain ⟨before, content, ending, after, h⟩ :=
    (Lines.ofText head).exists_at (Nat.le_of_lt hlt)
  have htext : (Lines.ofText (head ++ tail)).text = (Lines.ofText head).text ++ tail.toList :=
    String.toList_append
  obtain ⟨after', hwhole⟩ := h.append hhead hlt htext
  rw [placeSpan_eq h, placeSpan_eq hwhole]

end

/-- Whole lines in front of a text move its places down by their number and change nothing else, and
their own places do not depend on the text. -/
theorem resolution_is_local_to_lines (head tail : String)
    (hhead : head = "" ∨ head.toList.getLast? = some '\n')
    (hsize : (head ++ tail).utf8ByteSize < 2 ^ 32) :
    (∀ (span shifted : Span) (more more' : List Span),
      shifted.offset.toNat = (Utf8.encode head).length + span.offset.toNat →
      shifted.length = span.length →
      ((∃ e, resolve (Lines.ofText (head ++ tail)) ⟨shifted :: more'⟩ = .error e) ↔
        ∃ e, resolve (Lines.ofText tail) ⟨span :: more⟩ = .error e) ∧
      ∀ ref, resolve (Lines.ofText tail) ⟨span :: more⟩ = .ok ref →
        ∃ ref', resolve (Lines.ofText (head ++ tail)) ⟨shifted :: more'⟩ = .ok ref' ∧
          ref'.startColumn = ref.startColumn ∧ ref'.charCount = ref.charCount ∧
          ref'.line.toNat = ref.line.toNat + head.toList.count '\n') ∧
      ∀ (span : Span) (more more' : List Span),
        span.offset.toNat < (Utf8.encode head).length →
        resolve (Lines.ofText (head ++ tail)) ⟨span :: more⟩ =
          resolve (Lines.ofText head) ⟨span :: more'⟩ := by
  have hclosed : IsClosed head.toList := by
    rcases hhead with rfl | hlast
    · exact .inl rfl
    · exact .inr hlast
  have hwhole : (Lines.ofText (head ++ tail)).size =
      (Lines.ofText head).size + (Lines.ofText tail).size := by
    rw [Lines.size, Lines.size, Lines.size, ← byteCount_append]
    exact congrArg byteCount String.toList_append
  rw [← size_ofText head]
  refine ⟨?_, ?_⟩
  · intro span shifted more more' hoffset hlength
    rw [resolve_cons, resolve_cons]
    by_cases hout : (Lines.ofText tail).size < span.offset.toNat
    · rw [if_pos hout, if_pos (by omega)]
      simp
    · rw [if_neg hout, if_neg (by omega)]
      refine ⟨by simp, ?_⟩
      rintro ref ⟨⟩
      obtain ⟨index, column, content, hplace, hshifted, hle⟩ :=
        placeSpan_prepend hclosed (Nat.not_lt.mp hout) hoffset hlength
      have hlines : head.toList.count '\n' + index < 2 ^ 32 := by
        rw [Lines.size_ofText_eq] at hle
        exact Nat.lt_of_le_of_lt hle hsize
      refine ⟨_, rfl, ?_⟩
      rw [hplace, hshifted]
      refine ⟨rfl, rfl, ?_⟩
      have hline := toNat_saturate32_of_lt hlines
      have hindex := toNat_saturate32_of_lt (n := index) (by omega)
      simp only [Reference.onLine, hline, hindex]
      omega
  · intro span more more' hlt
    rw [resolve_of_le (Nat.le_of_lt hlt), resolve_of_le (by omega), placeSpan_append hclosed hlt]

/-- A feed that starts the text joins no return of the line in front of it. -/
theorem line_in_front_moves_places_down :
    "é\r\n".toList.getLast? = some '\n' ∧ ("é\r\n" ++ "\n𝄞b").utf8ByteSize < 2 ^ 32 ∧
      resolve (Lines.ofText "\n𝄞b") ⟨[⟨1, 5⟩]⟩ = .ok ⟨1, 0, 3⟩ ∧
      resolve (Lines.ofText ("é\r\n" ++ "\n𝄞b")) ⟨[⟨5, 5⟩]⟩ = .ok ⟨2, 0, 3⟩ ∧
      resolve (Lines.ofText ("é\r\n" ++ "\n𝄞b")) ⟨[⟨2, 9⟩]⟩ =
        resolve (Lines.ofText "é\r\n") ⟨[⟨2, 9⟩]⟩ := by
  have hhead : "é\r\n".toList.getLast? = some '\n' := by decide
  have hsize : ("é\r\n" ++ "\n𝄞b").utf8ByteSize < 2 ^ 32 := by decide
  have hbytes : (Utf8.encode "é\r\n").length = 4 := by
    rw [← size_ofText]
    decide
  have htail : resolve (Lines.ofText "\n𝄞b") ⟨[⟨1, 5⟩]⟩ = .ok ⟨1, 0, 3⟩ := by decide
  obtain ⟨hshift, hkeep⟩ := resolution_is_local_to_lines "é\r\n" "\n𝄞b" (.inr hhead) hsize
  obtain ⟨⟨line, column, width⟩, hwhole, rfl, rfl, hline⟩ :=
    (hshift ⟨1, 5⟩ ⟨5, 5⟩ [] [] (by rw [hbytes]; decide) rfl).2 _ htail
  obtain rfl : line = 2 := UInt32.toNat_inj.mp hline
  exact ⟨hhead, hsize, htail, hwhole, hkeep ⟨2, 9⟩ [] [] (by rw [hbytes]; decide)⟩

end ApiBlueprint.Source
