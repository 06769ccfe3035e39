import ApiBlueprint.Proofs.Resolution

/-! The style of line endings does not show in places. A text whose lines are closed by bare feeds
has the same lines when a return is put in front of every feed, and each offset has its place there
as many bytes further on as there are feeds before it. -/
namespace ApiBlueprint.Text

/-- A return in front of every feed. -/
def withReturns (text : List Char) : List Char :=
  text.flatMap fun c => if c = '\n' then ['\r', '\n'] else [c]

/-- No feed has a return directly before it. -/
def IsBare (text : List Char) : Prop := ¬ ['\r', '\n'] <:+: text

namespace Ending

def withReturn : Ending → Ending
  | unclosed => unclosed
  | lf => crlf
  | crlf => crlf

private theorem withReturn_ne_lf (ending : Ending) : ending.withReturn ≠ lf := by
  cases ending <;> decide

private theorem width_le_withReturn (ending : Ending) : ending.width ≤ ending.withReturn.width := by
  cases ending <;> decide

end Ending

def widened (cut : List Char × Ending) : List Char × Ending := (cut.1, cut.2.withReturn)

/-- A return and a feed in front of the widened lines are what a feed is in front of the others. -/
private theorem prependChar_feed_widened {cuts : List (List Char × Ending)} (h : cuts ≠ []) :
    prependChar '\r' (prependChar '\n' (cuts.map widened)) =
      (prependChar '\n' cuts).map widened := by
  obtain ⟨cut, rest, rfl⟩ := List.exists_cons_of_ne_nil h
  rfl

/-- Any other character is put in front of both alike, unless it is a return before a bare feed. -/
private theorem prependChar_widened {c : Char} {cuts : List (List Char × Ending)} (hc : c ≠ '\n')
    (h : ∀ rest, c = '\r' → cuts ≠ ([], .lf) :: rest) :
    prependChar c (cuts.map widened) = (prependChar c cuts).map widened := by
  cases cuts with
  | nil => rfl
  | cons cut rest =>
    obtain ⟨content, ending⟩ := cut
    have hbare : ¬ (c = '\r' ∧ content = [] ∧ ending = .lf) := by
      rintro ⟨hreturn, rfl, rfl⟩
      exact h rest hreturn rfl
    have hwide : ¬ (c = '\r' ∧ content = [] ∧ ending.withReturn = .lf) :=
      fun hjoint => ending.withReturn_ne_lf hjoint.2.2
    rw [List.map_cons, widened, prependChar, prependChar, if_neg hc, if_neg hc, if_neg hbare,
      if_neg hwide]
    rfl

private theorem cutLines_withReturns {text : List Char} (h : IsBare text) :
    cutLines (withReturns text) = (cutLines text).map widened := by
  induction text with
  | nil => rfl
  | cons c rest ih =>
    have hrest := ih fun hin => h (hin.trans (List.suffix_cons c rest).isInfix)
    have hcut : cutLines (c :: rest) = prependChar c (cutLines rest) := rfl
    by_cases hc : c = '\n'
    · subst hc
      rw [hcut, ← prependChar_feed_widened (cutLines_ne_nil rest), ← hrest]
      rfl
    · have hwide : withReturns (c :: rest) = c :: withReturns rest := by
        rw [withReturns, List.flatMap_cons, if_neg hc]
        rfl
      rw [hcut, ← prependChar_widened hc, ← hrest, hwide]
      · rfl
      · -- Otherwise the rest starts with the feed that closes an empty line.
        rintro more rfl hcuts
        refine h ⟨[], joined more, ?_⟩
        rw [← joined_cutLines rest, hcuts, joined_cons]
        rfl

/-- In front of another line all lines of a bare text are closed by a feed alone. -/
private theorem WellCut.ending_eq_lf {before after : List (List Char × Ending)}
    {cut : List Char × Ending} (h : WellCut (before ++ cut :: after))
    (hbare : IsBare (joined (before ++ cut :: after))) : ∀ b ∈ before, b.2 = .lf := by
  induction before with
  | nil => simp
  | cons first rest ih =>
    obtain ⟨content, ending⟩ := first
    rw [List.cons_append] at h hbare
    rw [joined_cons] at hbare
    obtain ⟨-, ⟨hcloses, hrest⟩ | ⟨-, hnil⟩⟩ := h.of_cons
    · have hlater := ih hrest fun hin => hbare (hin.trans (List.suffix_append _ _).isInfix)
      intro b hb
      rcases List.mem_cons.mp hb with rfl | hb
      · cases ending with
        | unclosed => cases hcloses
        | lf => rfl
        | crlf => exact absurd ⟨content, _, rfl⟩ hbare
      · exact hlater b hb
    · simp at hnil

private theorem byteCount_joined_widened {cuts : List (List Char × Ending)}
    (h : ∀ cut ∈ cuts, cut.2 = .lf) :
    byteCount (joined (cuts.map widened)) = byteCount (joined cuts) + cuts.length := by
  induction cuts with
  | nil => rfl
  | cons cut rest ih =>
    obtain ⟨content, ending⟩ := cut
    obtain rfl : ending = .lf := h _ List.mem_cons_self
    rw [List.map_cons, widened, joined_cons, joined_cons]
    simp only [byteCount_append, byteCount_chars, Ending.withReturn, Ending.width,
      ih fun cut hcut => h cut (List.mem_cons_of_mem _ hcut), List.length_cons]
    omega

namespace Lines

private theorem line?_eq (lines : Lines) (k : Nat) :
    lines.line? k = (cutLines lines.text)[k]?.map fun cut => String.ofList cut.1 := by
  rw [line?, lines.all_eq, getElem?_placeLines, Option.map_map]
  rfl

private theorem size_of_cut {lines : Lines} {before after : List (List Char × Ending)}
    {content : List Char} {ending : Ending}
    (h : cutLines lines.text = before ++ (content, ending) :: after) :
    lines.size =
      byteCount (joined before) + byteCount content + ending.width + byteCount (joined after) := by
  rw [size, ← joined_cutLines lines.text, h, joined_append, joined_cons]
  simp only [byteCount_append, byteCount_chars]
  omega

private theorem At.le_size {lines : Lines} {offset : Nat} {before after : List (List Char × Ending)}
    {content : List Char} {ending : Ending} (h : lines.At offset before content ending after) :
    offset ≤ lines.size := by
  have hle := h.le_stop
  rw [size_of_cut h.cut]
  omega

/-- The line of an offset is the one whose bytes it is among. -/
theorem At.of_bounds {lines : Lines} {offset : Nat} {before after : List (List Char × Ending)}
    {content : List Char} {ending : Ending}
    (hcut : cutLines lines.text = before ++ (content, ending) :: after)
    (hlo : byteCount (joined before) ≤ offset)
    (hhi : offset ≤ byteCount (joined before) + byteCount content + (ending.width - 1)) :
    lines.At offset before content ending after := by
  have htext : lines.text = joined before ++ (content ++ ending.chars ++ joined after) := by
    rw [← joined_cutLines lines.text, hcut, joined_append, joined_cons]
  obtain ⟨hline, hcount⟩ := (hcut ▸ wellCut_cutLines lines.text).lineAt
  refine .of_cut ?_ hcut ?_
  · rw [size_of_cut hcut]
    omega
  · rw [htext, bytes_append, bytes_append, bytes_append, hline.count_take_eq, hcount]
    · rwa [length_bytes]
    · rwa [length_bytes, length_bytes, length_bytes, byteCount_chars]

/-- With a return in front of every feed an offset stays on its line. -/
theorem At.withReturns {lines wide : Lines} {offset : Nat}
    {before after : List (List Char × Ending)} {content : List Char} {ending : Ending}
    (h : lines.At offset before content ending after) (hbare : IsBare lines.text)
    (htext : wide.text = Text.withReturns lines.text) :
    wide.At (offset + before.length) (before.map widened) content ending.withReturn
        (after.map widened) ∧
      byteCount (joined (before.map widened)) = byteCount (joined before) + before.length := by
  have hjoined : joined (before ++ (content, ending) :: after) = lines.text := by
    rw [← h.cut, joined_cutLines]
  have hstart := byteCount_joined_widened
    (WellCut.ending_eq_lf (h.cut ▸ wellCut_cutLines lines.text) (hjoined ▸ hbare))
  have hlo := h.start_le
  have hhi := h.le_stop
  have hwidth := ending.width_le_withReturn
  refine ⟨.of_bounds ?_ ?_ ?_, hstart⟩
  · rw [htext, cutLines_withReturns hbare, h.cut, List.map_append, List.map_cons, widened]
  · rw [hstart]
    exact Nat.add_le_add_right hlo _
  · rw [hstart]
    omega

end Lines

end ApiBlueprint.Text

namespace ApiBlueprint.Source
open Text

def crlfForm (text : String) : String := String.ofList (withReturns text.toList)

/-- A text that closes its lines by bare feeds and the same text with returns in front of them have
the same lines, and every span that starts within the text or at its end has one place in both. -/
theorem places_do_not_depend_on_endings (text : String) (h : ¬ ['\r', '\n'] <:+: text.toList) :
    (Lines.ofText (crlfForm text)).count = (Lines.ofText text).count ∧
      (∀ k, (Lines.ofText (crlfForm text)).line? k = (Lines.ofText text).line? k) ∧
      ∀ (span shifted : Span) (more more' : List Span),
        span.offset.toNat ≤ (Utf8.encode text).length →
        shifted.offset.toNat = span.offset.toNat +
          ((Utf8.encode text).take span.offset.toNat).count feed →
        shifted.length = span.length →
        ∃ ref, resolve (Lines.ofText text) ⟨span :: more⟩ = .ok ref ∧
          resolve (Lines.ofText (crlfForm text)) ⟨shifted :: more'⟩ = .ok ref := by
  have htext : (Lines.ofText (crlfForm text)).text = withReturns (Lines.ofText text).text :=
    String.toList_ofList
  have hcut : cutLines (Lines.ofText (crlfForm text)).text =
      (cutLines (Lines.ofText text).text).map widened := by
    rw [htext]
    exact cutLines_withReturns h
  refine ⟨?_, ?_, ?_⟩
  · rw [Lines.count_eq, ← length_cutLines, hcut, List.length_map, length_cutLines, Lines.count_eq]
  · intro k
    rw [Lines.line?_eq, Lines.line?_eq, hcut, List.getElem?_map, Option.map_map]
    rfl
  · intro span shifted more more' hle hoffset hlength
    rw [← size_ofText] at hle
    obtain ⟨before, content, ending, after, hat⟩ := (Lines.ofText text).exists_at hle
    obtain ⟨hwide, hstart⟩ := hat.withReturns h htext
    have hcount : ((Utf8.encode text).take span.offset.toNat).count feed = before.length := by
      rw [encode_eq_bytes]
      exact hat.count_take_eq
    rw [hcount] at hoffset
    rw [← hoffset] at hwide
    have hcolumn : shifted.offset.toNat - byteCount (joined (before.map widened)) =
        span.offset.toNat - byteCount (joined before) := by
      rw [hstart, hoffset, Nat.add_sub_add_right]
    refine ⟨_, resolve_of_le hle more, ?_⟩
    rw [resolve_of_le hwide.le_size, placeSpan_eq hwide, placeSpan_eq hat, hcolumn, hlength,
      List.length_map]

/-- Lone returns, an empty line and a return at the end. The first span starts on the feed of the
empty line, the second one within a character, and the third one at the end of the text. -/
theorem lone_returns_keep_their_places :
    ¬ ['\r', '\n'] <:+: "a\rb\n\n𝄞\r".toList ∧ crlfForm "a\rb\n\n𝄞\r" = "a\rb\r\n\r\n𝄞\r" ∧
      resolve (Lines.ofText "a\rb\r\n\r\n𝄞\r") ⟨[⟨5, 9⟩]⟩ = .ok ⟨1, 0, 0⟩ ∧
      resolve (Lines.ofText "a\rb\r\n\r\n𝄞\r") ⟨[⟨9, 9⟩]⟩ = .ok ⟨2, 0, 3⟩ ∧
      resolve (Lines.ofText "a\rb\r\n\r\n𝄞\r") ⟨[⟨12, 9⟩]⟩ = .ok ⟨2, 3, 0⟩ := by
  have hbare : ¬ ['\r', '\n'] <:+: "a\rb\n\n𝄞\r".toList := by
    have hchars : "a\rb\n\n𝄞\r".toList = ['a', '\r', 'b', '\n', '\n', '𝄞', '\r'] := rfl
    rw [hchars]
    simp [List.infix_cons_iff]
  have hwide : crlfForm "a\rb\n\n𝄞\r" = "a\rb\r\n\r\n𝄞\r" := by decide
  obtain ⟨-, -, hplace⟩ := places_do_not_depend_on_endings "a\rb\n\n𝄞\r" hbare
  have hbytes : Utf8.encode "a\rb\n\n𝄞\r" =
      [0x61, 0x0D, 0x62, 0x0A, 0x0A, 0xF0, 0x9D, 0x84, 0x9E, 0x0D] := by
    rw [encode_eq_bytes]
    decide
  rw [hbytes, hwide] at hplace
  obtain ⟨ref₁, hold₁, hnew₁⟩ := hplace ⟨4, 9⟩ ⟨5, 9⟩ [] [] (by decide) (by decide) rfl
  obtain ⟨ref₂, hold₂, hnew₂⟩ := hplace ⟨7, 9⟩ ⟨9, 9⟩ [] [] (by decide) (by decide) rfl
  obtain ⟨ref₃, hold₃, hnew₃⟩ := hplace ⟨10, 9⟩ ⟨12, 9⟩ [] [] (by decide) (by decide) rfl
  refine ⟨hbare, hwide, ?_, ?_, ?_⟩
  · rw [hnew₁, ← hold₁]
    decide
  · rw [hnew₂, ← hold₂]
    decide
  · rw [hnew₃, ← hold₃]
    decide

end ApiBlueprint.Source
