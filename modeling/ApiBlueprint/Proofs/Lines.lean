import ApiBlueprint.Proofs.Measure
import ApiBlueprint.Text.Line

/-! Lines of a text. Put together with their endings they are the text again, so no line is longer
than the text and there are no more lines than bytes, and one. -/
namespace ApiBlueprint.Text

def joined (cuts : List (List Char × Ending)) : List Char :=
  cuts.flatMap fun cut => cut.1 ++ cut.2.chars

private theorem joined_prependChar (c : Char) (cuts : List (List Char × Ending)) :
    joined (prependChar c cuts) = c :: joined cuts := by
  cases cuts with
  | nil => rfl
  | cons cut rest =>
    obtain ⟨content, ending⟩ := cut
    rw [prependChar]
    split
    · rename_i hfeed
      subst hfeed
      rfl
    · split
      · rename_i hreturn
        obtain ⟨rfl, rfl, rfl⟩ := hreturn
        rfl
      · rfl

/-- Nothing of a text is lost or moved. -/
theorem joined_cutLines (text : List Char) : joined (cutLines text) = text := by
  induction text with
  | nil => rfl
  | cons c rest ih =>
    change joined (prependChar c (cutLines rest)) = c :: rest
    rw [joined_prependChar, ih]

private theorem length_prependChar (c : Char) {cuts : List (List Char × Ending)} (h : cuts ≠ []) :
    (prependChar c cuts).length = cuts.length + if c = '\n' then 1 else 0 := by
  obtain ⟨⟨content, ending⟩, rest, rfl⟩ := List.exists_cons_of_ne_nil h
  rw [prependChar]
  split
  · rfl
  · split <;> rfl

/-- There is one line more than there are feeds. -/
theorem length_cutLines (text : List Char) : (cutLines text).length = text.count '\n' + 1 := by
  induction text with
  | nil => rfl
  | cons c rest ih =>
    have hne : cutLines rest ≠ [] := by
      intro hnil
      simp [hnil] at ih
    change (prependChar c (cutLines rest)).length = _
    rw [length_prependChar c hne, ih, List.count_cons]
    simp only [beq_iff_eq]
    omega

/-- Even the empty text has a line. -/
theorem cutLines_ne_nil (text : List Char) : cutLines text ≠ [] := by
  intro hnil
  have hlength := length_cutLines text
  simp [hnil] at hlength

/-- Placing lines leaves their contents and endings alone. -/
theorem map_placeLines (start : Nat) (cuts : List (List Char × Ending)) :
    (placeLines start cuts).map (fun line => (line.content, line.ending)) = cuts := by
  induction cuts generalizing start with
  | nil => rfl
  | cons cut rest ih => simp [placeLines, ih]

namespace Lines

/-- The size of a text is the number of its bytes. -/
theorem size_ofText_eq (text : String) : (ofText text).size = text.utf8ByteSize :=
  byteCount_toList text

/-- There is one line more than there are feeds. -/
theorem count_eq (lines : Lines) : lines.count = lines.text.count '\n' + 1 := by
  rw [← length_cutLines, ← map_placeLines 0 (cutLines lines.text), List.length_map, ← lines.all_eq]
  rfl

theorem count_pos (lines : Lines) : 0 < lines.count := by
  rw [count_eq]
  exact Nat.succ_pos _

/-- There is at most one line more than there are bytes. -/
theorem count_le (lines : Lines) : lines.count ≤ lines.size + 1 := by
  have hfeeds : lines.text.count '\n' ≤ lines.text.length := List.count_le_length
  have hbytes := length_le_byteCount lines.text
  rw [count_eq, size]
  omega

/-- A line is part of the text. -/
theorem byteCount_content_le (lines : Lines) {line : Line} (h : line ∈ lines.all) :
    byteCount line.content ≤ lines.size := by
  have hcut : (line.content, line.ending) ∈ cutLines lines.text := by
    rw [← map_placeLines 0 (cutLines lines.text), ← lines.all_eq]
    exact List.mem_map_of_mem h
  obtain ⟨before, after, hsplit⟩ := List.append_of_mem hcut
  rw [size, ← joined_cutLines lines.text, hsplit]
  simp only [joined, List.flatMap_append, List.flatMap_cons, byteCount_append]
  omega

end Lines
end ApiBlueprint.Text
