import ApiBlueprint.Proofs.Resolution

/-! How an editor finds a reported range. It goes to the line and walks into it, code unit by code
unit, and comes out at the bytes from which the range was made. -/
namespace ApiBlueprint.Text

/-- What stands from line `k` on, which is what follows the `k`th feed. -/
def seekLine : Nat → List Char → Option (List Char)
  | 0, text => some text
  | _ + 1, [] => none
  | k + 1, c :: rest => seekLine (if c = '\n' then k else k + 1) rest

/-- What is left after `n` code units. A walk does not leave its line, and it cannot end between the
two units of a pair. -/
def walkUnits : Nat → List Char → Option (List Char)
  | 0, text => some text
  | _ + 1, [] => none
  | n + 1, c :: rest =>
    if c = '\n' ∨ n + 1 < (units c).length then none else walkUnits (n + 1 - (units c).length) rest

private theorem seekLine_feed {run : List Char} (h : '\n' ∉ run) (k : Nat) (rest : List Char) :
    seekLine (k + 1) (run ++ '\n' :: rest) = seekLine k rest := by
  induction run with
  | nil => simp [seekLine]
  | cons c run ih =>
    have hc : c ≠ '\n' := (List.ne_of_not_mem_cons h).symm
    rw [List.cons_append, seekLine, if_neg hc, ih (List.not_mem_of_not_mem_cons h)]

private theorem seekLine_joined {before after : List (List Char × Ending)} {content : List Char}
    {ending : Ending} (h : WellCut (before ++ (content, ending) :: after)) (rest : List Char) :
    seekLine before.length (joined before ++ rest) = some rest := by
  induction before with
  | nil => exact seekLine.eq_1 rest
  | cons cut before ih =>
    obtain ⟨earlier, closing⟩ := cut
    rw [List.length_cons, joined_cons]
    rw [List.cons_append] at h
    -- A line with another one after it is closed.
    generalize htail : before ++ (content, ending) :: after = tail at h ih
    cases h with
    | last => simp at htail
    | lf hf _ hrest =>
      have hfeed := seekLine_feed hf before.length (joined before ++ rest)
      rw [ih hrest] at hfeed
      simpa [Ending.chars] using hfeed
    | crlf hf hrest =>
      have hreturn : '\n' ∉ earlier ++ ['\r'] := by simp [hf]
      have hfeed := seekLine_feed hreturn before.length (joined before ++ rest)
      rw [ih hrest] at hfeed
      simpa [Ending.chars] using hfeed

private theorem length_units (c : Char) : (units c).length = unitWidth c := by
  simpa [utf16] using length_utf16 [c]

private theorem walkUnits_append {run : List Char} (h : '\n' ∉ run) (rest : List Char) :
    walkUnits (unitCount run) (run ++ rest) = some rest := by
  induction run with
  | nil => exact walkUnits.eq_1 rest
  | cons c run ih =>
    have hc : c ≠ '\n' := (List.ne_of_not_mem_cons h).symm
    have hpos : 0 < unitWidth c := by
      rw [unitWidth]
      split <;> decide
    have hlen := length_units c
    obtain ⟨n, hn⟩ : ∃ n, unitCount (c :: run) = n + 1 :=
      Nat.exists_eq_succ_of_ne_zero (by rw [unitCount_cons]; omega)
    rw [unitCount_cons] at hn
    have hleft : n + 1 - (units c).length = unitCount run := by omega
    have hon : ¬ (c = '\n' ∨ n + 1 < (units c).length) := by
      rintro (heq | hlt)
      · exact hc heq
      · omega
    rw [unitCount_cons, hn, List.cons_append, walkUnits, if_neg hon, hleft,
      ih (List.not_mem_of_not_mem_cons h)]

end ApiBlueprint.Text

namespace ApiBlueprint.Source
open Text

/-- The byte at which an editor puts a position. -/
def offsetOf? (text : String) (position : Position) : Option Nat := do
  let line ← seekLine position.line.toNat text.toList
  let rest ← walkUnits position.character.toNat line
  return byteCount text.toList - byteCount rest

/-- The bytes that an editor marks for a range. -/
def highlighted? (text : String) (range : Range) : Option (List UInt8) := do
  let start ← offsetOf? text range.start
  let stop ← offsetOf? text range.stop
  return slice (Utf8.encode text) start stop

/-- An editor shows `length` bytes from `offset` on: both ends are within the line and fall back to
the boundary before them, and what is between them is marked. -/
structure Shown (text : String) (offset length : Nat) (range : Range) : Prop where
  start : offsetOf? text range.start = some (clip (Utf8.encode text) offset offset)
  stop : offsetOf? text range.stop = some (clip (Utf8.encode text) offset (offset + length))
  start_isBoundary : IsBoundary (Utf8.encode text) (clip (Utf8.encode text) offset offset)
  stop_isBoundary : IsBoundary (Utf8.encode text) (clip (Utf8.encode text) offset (offset + length))
  start_le_stop : clip (Utf8.encode text) offset offset ≤
    clip (Utf8.encode text) offset (offset + length)
  highlighted : highlighted? text range = some (slice (Utf8.encode text)
    (clip (Utf8.encode text) offset offset) (clip (Utf8.encode text) offset (offset + length)))

section
variable {text : String} {offset : Nat} {before after : List (List Char × Ending)}
  {content : List Char} {ending : Ending}
  (h : (Lines.ofText text).At offset before content ending after)
include h

/-- The place behind some of a line's content is where those characters end. -/
theorem offsetOf?_eq {run rest : List Char} (hcontent : content = run ++ rest)
    {line character : UInt32} (hline : line.toNat = before.length)
    (hcharacter : character.toNat = unitCount run) :
    offsetOf? text ⟨line, character⟩ = some (byteCount (joined before ++ run)) := by
  have htext : text.toList =
      joined before ++ (run ++ (rest ++ (ending.chars ++ joined after))) := by
    have heq : text.toList = _ := h.text_eq
    rw [heq, hcontent]
    simp only [List.append_assoc]
  have hfeedless : '\n' ∉ run := by
    have hzero : content.count '\n' = 0 := by
      rw [← count_feed_bytes]
      exact List.count_eq_zero.mpr h.lineAt.feedless
    rw [hcontent, List.count_append] at hzero
    exact List.count_eq_zero.mp (Nat.eq_zero_of_add_eq_zero_right hzero)
  have hseek := seekLine_joined (h.cut ▸ wellCut_cutLines text.toList)
    (run ++ (rest ++ (ending.chars ++ joined after)))
  have hwalk := walkUnits_append hfeedless (rest ++ (ending.chars ++ joined after))
  have hbytes := byteCount_append (joined before ++ run) (rest ++ (ending.chars ++ joined after))
  rw [List.append_assoc] at hbytes
  rw [offsetOf?, hline, hcharacter, htext, hseek, Option.bind_eq_bind, Option.bind_some, hwalk,
    Option.bind_some, hbytes, Nat.add_sub_cancel_right]
  rfl

/-- In a text of less than `2 ^ 32` bytes a place is not cut off, so the way back is exact. -/
theorem shown_onLine (hsize : text.utf8ByteSize < 2 ^ 32) (length : Nat) :
    Shown text offset length (Reference.onLine before.length
      (offset - byteCount (joined before)) length content).range := by
  obtain ⟨lead, marked, rest, hcontent, hlead, hwhole, hfrom, hto⟩ := h.exists_run length
  have htext : text.toList = joined before ++ content ++ (ending.chars ++ joined after) := h.text_eq
  rw [← byteCount_toList] at hsize
  have hline : before.length < 2 ^ 32 := Nat.lt_of_le_of_lt h.length_before_le hsize
  have hbytes : byteCount content ≤ byteCount text.toList := by
    rw [htext, byteCount_append, byteCount_append]
    omega
  have hunits : unitCount lead + unitCount marked < 2 ^ 32 := by
    have hle := unitCount_le_byteCount content
    rw [hcontent, unitCount_append, unitCount_append, ← hcontent] at hle
    omega
  have hstart : offsetOf? text ⟨saturate32 before.length, saturate32 (unitCount lead)⟩ =
      some (clip (bytes text.toList) offset offset) := by
    have hlead := offsetOf?_eq h (hcontent.trans (List.append_assoc ..))
      (toNat_saturate32_of_lt hline) (toNat_saturate32_of_lt (n := unitCount lead) (by omega))
    exact hlead.trans (congrArg some hfrom.symm)
  have hstop : offsetOf? text ⟨saturate32 before.length, saturate32 (unitCount (lead ++ marked))⟩ =
      some (clip (bytes text.toList) offset (offset + length)) := by
    rw [← unitCount_append] at hunits
    have hwhole := offsetOf?_eq h hcontent (toNat_saturate32_of_lt hline)
      (toNat_saturate32_of_lt hunits)
    rw [← List.append_assoc] at hwhole
    exact hwhole.trans (congrArg some hto.symm)
  rw [range_onLine, hlead, hwhole]
  refine ⟨?_, ?_, ?_, ?_, ?_, ?_⟩
  all_goals rw [encode_eq_bytes]
  · exact hstart
  · exact hstop
  · exact isBoundary_floorBoundary text.toList _
  · exact isBoundary_floorBoundary text.toList _
  · exact clip_mono (Nat.le_add_right offset length)
  · rw [highlighted?, hstart, hstop, encode_eq_bytes]
    rfl

end

/-- The way back from a reported range ends at the bytes of the span, cut back to whole characters
and to the line. If they are whole characters of one line, they are what is marked. -/
theorem reported_range_decodes_to_its_bytes (text : String) (hsize : text.utf8ByteSize < 2 ^ 32)
    (span : Span) (rest : List Span) (hle : span.offset.toNat ≤ (Utf8.encode text).length) :
    ∃ ref, resolve (Lines.ofText text) ⟨span :: rest⟩ = .ok ref ∧
      Shown text span.offset.toNat span.length.toNat ref.range ∧
      (IsBoundary (Utf8.encode text) span.offset.toNat →
        IsBoundary (Utf8.encode text) (span.offset.toNat + span.length.toNat) →
        span.offset.toNat + span.length.toNat ≤
          contentEnd (Utf8.encode text) (lineStart (Utf8.encode text) span.offset.toNat) →
        highlighted? text ref.range = some (slice (Utf8.encode text) span.offset.toNat
          (span.offset.toNat + span.length.toNat))) := by
  rw [← size_ofText] at hle
  obtain ⟨before, content, ending, after, h⟩ := (Lines.ofText text).exists_at hle
  have hshown := shown_onLine h hsize span.length.toNat
  rw [← placeSpan_eq h] at hshown
  refine ⟨placeSpan (Lines.ofText text) span, ?_, hshown, ?_⟩
  · rw [resolve_cons, if_neg (Nat.not_lt.mpr hle)]
  · intro hfrom hto hend
    rw [hshown.highlighted, clip_of_isBoundary hfrom (by omega), clip_of_isBoundary hto hend]

/-- A pair and a letter of the second line. -/
theorem pair_and_letter_are_marked :
    "a\r\n𝄞b\r\nc".utf8ByteSize < 2 ^ 32 ∧
      resolve (Lines.ofText "a\r\n𝄞b\r\nc") ⟨[⟨3, 5⟩]⟩ = .ok ⟨1, 0, 3⟩ ∧
      Shown "a\r\n𝄞b\r\nc" 3 5 ⟨⟨1, 0⟩, ⟨1, 3⟩⟩ ∧
      highlighted? "a\r\n𝄞b\r\nc" ⟨⟨1, 0⟩, ⟨1, 3⟩⟩ = some [0xF0, 0x9D, 0x84, 0x9E, 0x62] := by
  have hsize : "a\r\n𝄞b\r\nc".utf8ByteSize < 2 ^ 32 := by decide
  have hform : Utf8.encode "a\r\n𝄞b\r\nc" =
      [0x61, 0x0D, 0x0A, 0xF0, 0x9D, 0x84, 0x9E, 0x62, 0x0D, 0x0A, 0x63] := by
    rw [encode_eq_bytes]
    decide
  have hresolve : resolve (Lines.ofText "a\r\n𝄞b\r\nc") ⟨[⟨3, 5⟩]⟩ = .ok ⟨1, 0, 3⟩ := by decide
  obtain ⟨ref, href, hshown, hmarked⟩ := reported_range_decodes_to_its_bytes _ hsize ⟨3, 5⟩ []
    (by rw [hform]; decide)
  rw [← Except.ok.inj (hresolve.symm.trans href)] at hshown hmarked
  rw [hform] at hmarked
  exact ⟨hsize, hresolve, hshown, hmarked (by decide) (by decide) (by decide)⟩

end ApiBlueprint.Source
