import ApiBlueprint.Analysis
import ApiBlueprint.Proofs.Lines
import Mathlib.Algebra.Group.Nat.Defs

/-! Places that are reported. Whatever a parser says about offsets and lengths, the ranges made of
it can be shown in the text. -/
namespace ApiBlueprint.Source
open Text

/-- A range that an editor can show: a part of one line, from one character boundary to another. -/
structure Inside (lines : Lines) (range : Range) : Prop where
  line_eq : range.stop.line = range.start.line
  line_lt : range.start.line.toNat < lines.count
  character_le : range.start.character ≤ range.stop.character
  content : ∃ content, lines.line? range.start.line.toNat = some content ∧
    range.stop.character.toNat ≤ (utf16 content.toList).length ∧
    ¬ SplitsPair (utf16 content.toList) range.start.character.toNat ∧
    ¬ SplitsPair (utf16 content.toList) range.stop.character.toNat

/-- Numbers beyond 32 bits are cut off at the greatest one. -/
theorem toNat_saturate32 (n : Nat) : (saturate32 n).toNat = min n 0xFFFFFFFF :=
  UInt32.toNat_ofNat_of_lt' (Nat.lt_of_le_of_lt (Nat.min_le_right ..) (by decide))

theorem toNat_saturate32_of_lt {n : Nat} (h : n < 2 ^ 32) : (saturate32 n).toNat = n := by
  rw [toNat_saturate32]
  omega

/-- The end saturates only once, though it is found by adding up two saturated numbers. -/
theorem range_onLine (index column length : Nat) (content : List Char) :
    (Reference.onLine index column length content).range =
      ⟨⟨saturate32 index, saturate32 (unitCount (takeBytes column content))⟩,
        ⟨saturate32 index, saturate32 (unitCount (takeBytes (column + length) content))⟩⟩ := by
  have hle := unitCount_le_of_prefix (takeBytes_mono (Nat.le_add_right column length) content)
  have hstop : saturate32 ((saturate32 (unitCount (takeBytes column content))).toNat +
      (saturate32 (unitCount (takeBytes (column + length) content) -
        unitCount (takeBytes column content))).toNat) =
      saturate32 (unitCount (takeBytes (column + length) content)) := by
    rw [toNat_saturate32, toNat_saturate32, saturate32, saturate32]
    congr 1
    omega
  simp only [Reference.range, Reference.onLine, hstop]

section
variable {lines : Lines} (h : lines.size < 2 ^ 32)
include h

/-- In a text of less than `2 ^ 32` bytes, lines and columns can all be counted. The columns are
those of whole characters, as both ends are cut back to them. -/
theorem inside_onLine {index : Nat} {line : Line} (hline : lines.all[index]? = some line)
    (column length : Nat) :
    Inside lines (Reference.onLine index column length line.content).range := by
  have hlt : index < lines.count := (List.getElem?_eq_some_iff.mp hline).1
  have hcount := lines.count_le
  have hbytes := lines.byteCount_content_le (List.mem_of_getElem? hline)
  have hunits := unitCount_le_byteCount line.content
  have hb := takeBytes_mono (Nat.le_add_right column length) line.content
  have hu := takeBytes_prefix (column + length) line.content
  have hbu := unitCount_le_of_prefix hb
  have huc := unitCount_le_of_prefix hu
  have hindex : (saturate32 index).toNat = index := toNat_saturate32_of_lt (by omega)
  have hstart := toNat_saturate32_of_lt
    (show unitCount (takeBytes column line.content) < 2 ^ 32 by omega)
  have hstop := toNat_saturate32_of_lt
    (show unitCount (takeBytes (column + length) line.content) < 2 ^ 32 by omega)
  rw [range_onLine]
  refine ⟨rfl, ?_, ?_, String.ofList line.content, ?_, ?_, ?_, ?_⟩
  · rwa [hindex]
  · rwa [UInt32.le_iff_toNat_le, hstart, hstop]
  · rw [hindex, Lines.line?, hline]
    rfl
  · rwa [hstop, String.toList_ofList, length_utf16]
  · rw [hstart, String.toList_ofList]
    exact not_splitsPair_of_prefix (hb.trans hu)
  · rw [hstop, String.toList_ofList]
    exact not_splitsPair_of_prefix hu

private theorem inside_origin : Inside lines Range.origin := by
  have hpos : 0 < lines.all.length := lines.count_pos
  have hline : lines.all[0]? = some lines.all[0] := List.getElem?_eq_getElem hpos
  have hin := inside_onLine h hline 0 0
  rwa [Reference.onLine, takeBytes_zero] at hin

private theorem inside_placeSpan (span : Span) : Inside lines (placeSpan lines span).range := by
  rw [placeSpan]
  split
  · rename_i line hline
    exact inside_onLine h hline _ _
  · exact inside_origin h

/-- Whatever a source map says, it is placed inside the text. -/
theorem inside_resolveOrStart (map : Option SourceMap) :
    Inside lines (resolveOrStart lines map).range := by
  rw [resolveOrStart]
  split
  · rename_i ref hmap
    obtain ⟨m, -, hres⟩ := Option.map_eq_some_iff.mp hmap
    rw [resolve] at hres
    split at hres
    · cases hres
    · split at hres
      · cases hres
      · cases hres
        exact inside_placeSpan h _
  · exact inside_origin h

end

end ApiBlueprint.Source

namespace ApiBlueprint
open Source Text

/-- Every entry of an outline is placed by a source map, or at the start for want of one. -/
theorem ParseResult.symbols_located (result : ParseResult) (lines : Lines) :
    ∀ symbol ∈ result.symbols lines, ∃ map, symbol.range = (resolveOrStart lines map).range := by
  intro symbol hs
  rw [ParseResult.symbols] at hs
  split at hs
  · cases hs
  · rcases List.mem_append.mp hs with hs | hs
    · rw [Option.mem_toList] at hs
      obtain ⟨title, -, rfl⟩ := Option.map_eq_some_iff.mp hs
      exact ⟨title.sourceMap, rfl⟩
    · obtain ⟨title, -, rfl⟩ := List.mem_map.mp hs
      exact ⟨title.sourceMap, rfl⟩

/-- So is every diagnostic. -/
theorem ParseResult.diagnostics_located (result : ParseResult) (lines : Lines) :
    ∀ d ∈ result.diagnostics lines, ∃ map, d.range = (resolveOrStart lines map).range := by
  intro d hd
  obtain ⟨note, -, rfl⟩ := List.mem_map.mp hd
  exact ⟨note.sourceMap, rfl⟩

/-- Whatever a parser makes of a text, all that is reported of it can be shown in the text. -/
theorem analyze_ranges_inside_text (text : String) (h : text.utf8ByteSize < 2 ^ 32)
    (settings : Settings) (parser : Parser) :
    (∀ d ∈ (analyze text settings parser).diagnostics, Inside (Lines.ofText text) d.range) ∧
      ∀ symbol ∈ (analyze text settings parser).symbols,
        Inside (Lines.ofText text) symbol.range := by
  have hsize : (Lines.ofText text).size < 2 ^ 32 := by
    rwa [Lines.size, Lines.ofText, byteCount_toList]
  cases hp : parser text settings.parseOptions with
  | error e =>
    simp only [analyze, parseWithDiagnostics, hp, Analysis.symbols]
    refine ⟨?_, ?_⟩
    · intro d hd
      rw [List.mem_singleton.mp hd]
      exact inside_origin hsize
    · simp
  | ok result =>
    simp only [analyze, parseWithDiagnostics, hp, Analysis.symbols]
    refine ⟨?_, ?_⟩
    · intro d hd
      obtain ⟨map, hrange⟩ := result.diagnostics_located _ d hd
      exact hrange ▸ inside_resolveOrStart hsize map
    · intro symbol hs
      split at hs
      · obtain ⟨map, hrange⟩ := result.symbols_located _ symbol hs
        exact hrange ▸ inside_resolveOrStart hsize map
      · cases hs

/-- One remark, about bytes from within a character of the second line to far beyond the text. -/
private def careless : Parser := fun _ _ =>
  .ok ⟨[.remark ⟨[], none, "", some ⟨[⟨5, 0xFFFFFFFFFFFFFFFF⟩]⟩⟩]⟩

/-- A span that starts within a character and runs beyond the text is still placed inside. -/
theorem careless_range_inside :
    "a\r\n𝄞b".utf8ByteSize < 2 ^ 32 ∧
      Inside (Lines.ofText "a\r\n𝄞b") ⟨⟨1, 0⟩, ⟨1, 3⟩⟩ := by
  have hsize : "a\r\n𝄞b".utf8ByteSize < 2 ^ 32 := by decide
  have hinside := (analyze_ranges_inside_text "a\r\n𝄞b" hsize {} careless).1
  have hrange : (analyze "a\r\n𝄞b" {} careless).diagnostics =
      [⟨⟨⟨1, 0⟩, ⟨1, 3⟩⟩, .error, none, some Diagnostic.origin, ""⟩] := by decide
  rw [hrange] at hinside
  exact ⟨hsize, hinside _ (List.mem_singleton.mpr rfl)⟩

end ApiBlueprint
