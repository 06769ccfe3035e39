import ApiBlueprint.Proofs.Decomposition
import ApiBlueprint.Proofs.Placement

/-! Places as the bytes of a text have them. The line of an offset is found by looking back for a
feed, its column by measuring the characters in between, and the walk over the lines comes to the
same. -/
namespace ApiBlueprint.Text

/-- Just after the last feed before `offset`; zero if there is none. -/
def lineStart (form : List UInt8) (offset : Nat) : Nat :=
  Nat.findGreatest (fun i => form[i - 1]? = some feed) offset

/-- Where the content of the line that starts at `start` ends: at the next feed, at a return
directly before that feed, or with the bytes. -/
def contentEnd (form : List UInt8) (start : Nat) : Nat :=
  let stop := start + (form.drop start).idxOf feed
  if form[stop]? = some feed ∧ start < stop ∧ form[stop - 1]? = some carriage then stop - 1
  else stop

/-- The last boundary that is neither above `n` nor beyond the content of the line of `offset`. -/
def clip (form : List UInt8) (offset n : Nat) : Nat :=
  floorBoundary form (min n (contentEnd form (lineStart form offset)))

/-- A later cut is not clipped to an earlier place. -/
theorem clip_mono {form : List UInt8} {offset n m : Nat} (h : n ≤ m) :
    clip form offset n ≤ clip form offset m := by
  apply Nat.findGreatest_mono_right
  omega

/-- A boundary within the content of a line is left where it is. -/
theorem clip_of_isBoundary {form : List UInt8} {offset n : Nat} (h : IsBoundary form n)
    (hn : n ≤ contentEnd form (lineStart form offset)) : clip form offset n = n := by
  rw [clip, Nat.min_eq_left hn, floorBoundary, Nat.findGreatest_eq h]

/-- A line among bytes, with what stands before and after it. -/
structure LineAt (before content ending after : List UInt8) : Prop where
  opens : before = [] ∨ before.getLast? = some feed
  feedless : feed ∉ content
  closes : Closes content ending ∨ ending = [] ∧ after = []

namespace LineAt
variable {before content ending after : List UInt8} {offset : Nat}

/-- Up to the feed of its ending a line has none. -/
theorem split (h : LineAt before content ending after) :
    ∃ run rest, content ++ ending ++ after = run ++ rest ∧ feed ∉ run ∧
      run.length = content.length + (ending.length - 1) ∧ (rest = [] ∨ rest.head? = some feed) := by
  rcases h.closes with hclosed | ⟨rfl, rfl⟩
  · cases hclosed with
    | lf => exact ⟨content, feed :: after, by simp, h.feedless, rfl, .inr rfl⟩
    | crlf =>
      refine ⟨content ++ [carriage], feed :: after, by simp, ?_, by simp, .inr rfl⟩
      simp [h.feedless, feed_ne_carriage]
  · exact ⟨content, [], by simp, h.feedless, rfl, .inl rfl⟩

private theorem idxOf_feed (h : LineAt before content ending after) :
    (content ++ ending ++ after).idxOf feed = content.length + (ending.length - 1) := by
  obtain ⟨run, rest, heq, hrun, hlen, hrest⟩ := h.split
  have hzero : rest.idxOf feed = 0 := by
    rcases hrest with rfl | hhead
    · rfl
    · obtain ⟨tail, rfl⟩ := List.head?_eq_some_iff.mp hhead
      exact List.idxOf_cons_self
  rw [heq, List.idxOf_append, if_neg hrun, hzero, Nat.zero_add, hlen]

private theorem contentEnd_eq (h : LineAt before content ending after) :
    contentEnd (before ++ (content ++ ending ++ after)) before.length =
      before.length + content.length := by
  have hidx := h.idxOf_feed
  rw [contentEnd, List.drop_left, hidx]
  rcases h.closes with hclosed | ⟨rfl, rfl⟩
  · cases hclosed with
    | lf hr =>
      refine if_neg ?_
      rintro ⟨-, hlt, hreturn⟩
      simp only [List.length_singleton, Nat.sub_self, Nat.add_zero] at hlt hreturn
      rw [List.getElem?_append_right (by omega), List.append_assoc,
        List.getElem?_append_left (by omega), Nat.add_sub_assoc (by omega),
        Nat.add_sub_cancel_left, ← List.getLast?_eq_getElem?] at hreturn
      exact hr hreturn
    | crlf =>
      refine if_pos ⟨?_, ?_, ?_⟩
      · simp
      · simp
      · simp
  · refine if_neg ?_
    rintro ⟨hfeed, -, -⟩
    simp at hfeed

section
variable (h : LineAt before content ending after) (hlo : before.length ≤ offset)
  (hhi : offset ≤ before.length + content.length + (ending.length - 1))
include h hlo hhi

theorem count_take_eq :
    ((before ++ (content ++ ending ++ after)).take offset).count feed = before.count feed := by
  obtain ⟨run, rest, heq, hrun, hlen, -⟩ := h.split
  have htake : (before ++ (run ++ rest)).take offset =
      before ++ run.take (offset - before.length) := by
    rw [List.take_append, List.take_of_length_le hlo, List.take_append_of_le_length (by omega)]
  have hnone : (run.take (offset - before.length)).count feed = 0 :=
    List.count_eq_zero.mpr fun hmem => hrun (List.mem_of_mem_take hmem)
  rw [heq, htake, List.count_append, hnone, Nat.add_zero]

private theorem lineStart_eq :
    lineStart (before ++ (content ++ ending ++ after)) offset = before.length := by
  rw [lineStart, Nat.findGreatest_eq_iff]
  refine ⟨hlo, ?_, ?_⟩
  · intro hne
    rcases h.opens with rfl | hlast
    · exact absurd rfl hne
    · rwa [List.getElem?_append_left (by omega), ← List.getLast?_eq_getElem?]
  · -- Between the start of the line and the offset nothing but the run before the feed is seen.
    intro i hlt hle hfeed
    obtain ⟨run, rest, heq, hrun, hlen, -⟩ := h.split
    rw [heq, List.getElem?_append_right (by omega), List.getElem?_append_left (by omega)] at hfeed
    exact hrun (List.mem_of_getElem? hfeed)

end

end LineAt

private theorem Closes.getLast?_eq {content ending : List UInt8} (h : Closes content ending) :
    ending.getLast? = some feed := by
  cases h <;> rfl

/-- Every line of a text is one among its bytes, and there are as many feeds before it as lines. -/
theorem WellCut.lineAt {before after : List (List Char × Ending)} {content : List Char}
    {ending : Ending} (h : WellCut (before ++ (content, ending) :: after)) :
    LineAt (bytes (joined before)) (bytes content) (bytes ending.chars) (bytes (joined after)) ∧
      (bytes (joined before)).count feed = before.length := by
  induction before with
  | nil =>
    obtain ⟨hf, hclosed⟩ := h.of_cons
    refine ⟨⟨.inl rfl, feed_not_mem_bytes hf, ?_⟩, rfl⟩
    rcases hclosed with ⟨hc, -⟩ | ⟨rfl, rfl⟩
    · exact .inl hc
    · exact .inr ⟨rfl, rfl⟩
  | cons cut rest ih =>
    obtain ⟨earlier, closing⟩ := cut
    obtain ⟨hf, ⟨hc, hrest⟩ | ⟨-, hnil⟩⟩ := h.of_cons
    · obtain ⟨hline, hcount⟩ := ih hrest
      rw [joined_cons, bytes_append, bytes_append]
      refine ⟨⟨.inr ?_, hline.feedless, hline.closes⟩, ?_⟩
      · rcases hline.opens with hnil | hlast
        · rw [hnil, List.append_nil, List.getLast?_append, hc.getLast?_eq]
          rfl
        · rw [List.getLast?_append, hlast]
          rfl
      · rw [List.count_append, List.count_append, hcount, hc.count_feed,
          List.count_eq_zero.mpr (feed_not_mem_bytes hf), List.length_cons]
        omega
    · simp at hnil

namespace Lines

/-- The line on which an offset falls, with the lines before and after it. A feed belongs to the
line that it closes, and the end of the text to the last line. -/
structure At (lines : Lines) (offset : Nat) (before : List (List Char × Ending))
    (content : List Char) (ending : Ending) (after : List (List Char × Ending)) : Prop where
  cut : cutLines lines.text = before ++ (content, ending) :: after
  index : lines.indexAt offset = before.length
  start_le : byteCount (joined before) ≤ offset
  le_stop : offset ≤ byteCount (joined before) + byteCount content + (ending.width - 1)

/-- The walk over the lines stops where the offset is. -/
private theorem findIdx_placeLines {cuts : List (List Char × Ending)} (h : WellCut cuts)
    {start offset : Nat} (hlo : start ≤ offset) (hhi : offset ≤ start + byteCount (joined cuts)) :
    ∃ before content ending after, cuts = before ++ (content, ending) :: after ∧
      min ((placeLines start cuts).findIdx fun line => offset < line.stop) (cuts.length - 1) =
        before.length ∧
      start + byteCount (joined before) ≤ offset ∧
      offset ≤ start + byteCount (joined before) + byteCount content + (ending.width - 1) := by
  induction cuts generalizing start with
  | nil => cases h
  | cons cut rest ih =>
    obtain ⟨content, ending⟩ := cut
    by_cases hin : offset < start + byteCount content + ending.width
    · refine ⟨[], content, ending, rest, rfl, ?_, hlo, ?_⟩
      · rw [placeLines, List.findIdx_cons]
        simp [Line.stop, hin]
      · simp only [joined, List.flatMap_nil, byteCount_nil]
        omega
    · rw [joined_cons, byteCount_append, byteCount_append, byteCount_chars] at hhi
      obtain ⟨-, ⟨-, hrest⟩ | ⟨rfl, rfl⟩⟩ := h.of_cons
      · obtain ⟨before, content', ending', after, rfl, hidx, hlo', hhi'⟩ :=
          ih hrest (Nat.not_lt.mp hin) (by omega)
        refine ⟨(content, ending) :: before, content', ending', after, rfl, ?_, ?_, ?_⟩
        · rw [placeLines, List.findIdx_cons, List.length_cons]
          simp only [Line.stop, hin, decide_false, cond_false, List.length_cons, ← hidx]
          simp only [List.length_append, List.length_cons]
          omega
        · rw [joined_cons, byteCount_append, byteCount_append, byteCount_chars]
          omega
        · rw [joined_cons, byteCount_append, byteCount_append, byteCount_chars]
          omega
      · refine ⟨[], content, .unclosed, [], rfl, by simp, hlo, ?_⟩
        simp only [joined, List.flatMap_nil, byteCount_nil, Ending.width] at hhi ⊢
        omega

/-- Every offset up to the end of a text has its line. -/
theorem exists_at (lines : Lines) {offset : Nat} (h : offset ≤ lines.size) :
    ∃ before content ending after, lines.At offset before content ending after := by
  have hwell := wellCut_cutLines lines.text
  have hhi : offset ≤ 0 + byteCount (joined (cutLines lines.text)) := by
    rwa [joined_cutLines, Nat.zero_add]
  obtain ⟨before, content, ending, after, hcut, hidx, hlo, hhi⟩ :=
    findIdx_placeLines hwell (Nat.zero_le offset) hhi
  have hlen : lines.count = (cutLines lines.text).length := by
    rw [count, lines.all_eq, ← map_placeLines 0 (cutLines lines.text), List.length_map,
      map_placeLines]
  rw [Nat.zero_add] at hlo hhi
  refine ⟨before, content, ending, after, hcut, ?_, hlo, hhi⟩
  rw [indexAt, hlen, lines.all_eq]
  exact hidx

namespace At
variable {lines : Lines} {offset : Nat} {before after : List (List Char × Ending)}
  {content : List Char} {ending : Ending} (h : lines.At offset before content ending after)
include h

/-- The line of an offset in the text around it. -/
theorem text_eq : lines.text = joined before ++ content ++ (ending.chars ++ joined after) := by
  rw [← joined_cutLines lines.text, h.cut, joined_append, joined_cons]
  simp only [List.append_assoc]

private theorem line_eq :
    lines.all[before.length]? = some ⟨byteCount (joined before), content, ending⟩ := by
  rw [lines.all_eq, getElem?_placeLines, h.cut]
  simp

/-- The line of an offset is one among the bytes. -/
theorem lineAt :
    LineAt (bytes (joined before)) (bytes content) (bytes ending.chars) (bytes (joined after)) :=
  (h.cut ▸ wellCut_cutLines lines.text).lineAt.1

/-- The line of an offset in the bytes around it. -/
theorem bytes_eq : bytes lines.text = bytes (joined before) ++
    (bytes content ++ bytes ending.chars ++ bytes (joined after)) := by
  rw [h.text_eq]
  simp only [bytes_append, List.append_assoc]

private theorem bounds : (bytes (joined before)).length ≤ offset ∧
    offset ≤ (bytes (joined before)).length + (bytes content).length +
      ((bytes ending.chars).length - 1) := by
  rw [length_bytes, length_bytes, length_bytes, byteCount_chars]
  exact ⟨h.start_le, h.le_stop⟩

theorem count_take_eq : ((bytes lines.text).take offset).count feed = before.length := by
  rw [h.bytes_eq, h.lineAt.count_take_eq h.bounds.1 h.bounds.2]
  exact (h.cut ▸ wellCut_cutLines lines.text).lineAt.2

/-- There are no more lines before an offset than bytes. -/
theorem length_before_le : before.length ≤ lines.size := by
  have hle := List.count_le_length (a := feed) (l := (bytes lines.text).take offset)
  have htake := List.length_take_le' offset (bytes lines.text)
  rw [h.count_take_eq] at hle
  rw [length_bytes] at htake
  exact Nat.le_trans hle htake

/-- Looking back for a feed finds the start of the line. -/
theorem lineStart_eq : lineStart (bytes lines.text) offset = byteCount (joined before) := by
  rw [h.bytes_eq, h.lineAt.lineStart_eq h.bounds.1 h.bounds.2, length_bytes]

/-- Looking ahead finds the end of its content. -/
theorem contentEnd_eq : contentEnd (bytes lines.text) (byteCount (joined before)) =
    byteCount (joined before) + byteCount content := by
  rw [h.bytes_eq, ← length_bytes (joined before), h.lineAt.contentEnd_eq, length_bytes content]

/-- A cut within a line is one within its content. -/
theorem clip_eq {n : Nat} (hn : byteCount (joined before) ≤ n) :
    clip (bytes lines.text) offset n =
      byteCount (joined before ++ takeBytes (n - byteCount (joined before)) content) := by
  have hmin : min n (byteCount (joined before) + byteCount content) =
      byteCount (joined before) + min (n - byteCount (joined before)) (byteCount content) := by
    omega
  rw [clip, h.lineStart_eq, h.contentEnd_eq, floorBoundary_bytes, hmin, h.text_eq,
    List.append_assoc, takeBytes_append, takeBytes_append_of_le (Nat.min_le_right ..),
    takeBytes_min]

/-- Part of the content as part of the text. -/
theorem slice_eq {a b c : List Char} (hc : content = a ++ b ++ c) :
    slice (bytes lines.text) (byteCount (joined before ++ a))
      (byteCount (joined before ++ a ++ b)) = bytes b := by
  have htext : lines.text =
      (joined before ++ a) ++ b ++ (c ++ (ending.chars ++ joined after)) := by
    rw [h.text_eq, hc]
    simp only [List.append_assoc]
  rw [htext, byteCount_append (joined before ++ a) b, slice_bytes]

private theorem slice_start_eq {a b : List Char} (hc : content = a ++ b) :
    slice (bytes lines.text) (byteCount (joined before)) (byteCount (joined before ++ a)) =
      bytes a := by
  have hslice := h.slice_eq (show content = [] ++ a ++ b from hc)
  rwa [List.append_nil] at hslice

/-- The run of `length` bytes from `offset` on: what of the line stands before it, the run, and what
stands after it. -/
theorem exists_run (length : Nat) :
    ∃ lead marked rest, content = lead ++ marked ++ rest ∧
      takeBytes (offset - byteCount (joined before)) content = lead ∧
      takeBytes (offset - byteCount (joined before) + length) content = lead ++ marked ∧
      clip (bytes lines.text) offset offset = byteCount (joined before ++ lead) ∧
      clip (bytes lines.text) offset (offset + length) =
        byteCount (joined before ++ lead ++ marked) := by
  have hle := h.start_le
  obtain ⟨marked, hmarked⟩ :=
    takeBytes_mono (Nat.le_add_right (offset - byteCount (joined before)) length) content
  obtain ⟨rest, hrest⟩ := takeBytes_prefix (offset - byteCount (joined before) + length) content
  refine ⟨_, marked, rest, ?_, rfl, hmarked.symm, h.clip_eq hle, ?_⟩
  · rw [hmarked, hrest]
  · rw [h.clip_eq (Nat.le_trans hle (Nat.le_add_right offset length)), Nat.sub_add_comm hle,
      ← hmarked, List.append_assoc]

end At

/-- The line of an offset is the one with as many lines before it as there are feeds. -/
theorem At.of_cut {lines : Lines} {offset : Nat} {before after : List (List Char × Ending)}
    {content : List Char} {ending : Ending} (hle : offset ≤ lines.size)
    (hcut : cutLines lines.text = before ++ (content, ending) :: after)
    (hcount : ((bytes lines.text).take offset).count feed = before.length) :
    lines.At offset before content ending after := by
  obtain ⟨before', content', ending', after', h⟩ := lines.exists_at hle
  have hlength : before'.length = before.length := h.count_take_eq.symm.trans hcount
  obtain ⟨rfl, hrest⟩ := List.append_inj (h.cut.symm.trans hcut) hlength
  obtain ⟨hline, rfl⟩ := List.cons.inj hrest
  obtain ⟨rfl, rfl⟩ := Prod.mk.inj hline
  exact h

end Lines

end ApiBlueprint.Text

namespace ApiBlueprint.Source
open Text

/-- The place of `length` bytes from `offset` on, as the bytes of a text have it. All four numbers
are cut off at the greatest one of 32 bits. -/
structure Placed (form : List UInt8) (offset length : Nat) (ref : Reference) : Prop where
  line : ref.line.toNat = min ((form.take offset).count feed) (2 ^ 32 - 1)
  start : ∃ lead : String,
    Utf8.encode lead = slice form (lineStart form offset) (clip form offset offset) ∧
      ref.startColumn.toNat = min (utf16 lead.toList).length (2 ^ 32 - 1)
  count : ∃ marked : String,
    Utf8.encode marked = slice form (clip form offset offset) (clip form offset (offset + length)) ∧
      ref.charCount.toNat = min (utf16 marked.toList).length (2 ^ 32 - 1)
  stop : ∃ whole : String,
    Utf8.encode whole = slice form (lineStart form offset) (clip form offset (offset + length)) ∧
      ref.range.stop.character.toNat = min (utf16 whole.toList).length (2 ^ 32 - 1)

/-- A span is placed on the line of its offset. -/
theorem placeSpan_eq {lines : Lines} {span : Span} {before after : List (List Char × Ending)}
    {content : List Char} {ending : Ending}
    (h : lines.At span.offset.toNat before content ending after) :
    placeSpan lines span = .onLine before.length
      (span.offset.toNat - byteCount (joined before)) span.length.toNat content := by
  simp only [placeSpan, h.index, h.line_eq]

private theorem placed_onLine {lines : Lines} {offset : Nat}
    {before after : List (List Char × Ending)}
    {content : List Char} {ending : Ending} (h : lines.At offset before content ending after)
    (length : Nat) :
    Placed (bytes lines.text) offset length
      (.onLine before.length (offset - byteCount (joined before)) length content) := by
  obtain ⟨lead, marked, rest, hcontent, hlead, hwhole, hfrom, hto⟩ := h.exists_run length
  refine ⟨?_, ?_, ?_, ?_⟩
  · rw [h.count_take_eq]
    exact toNat_saturate32 before.length
  · refine ⟨String.ofList lead, ?_, ?_⟩
    · rw [encode_ofList, h.lineStart_eq, hfrom,
        h.slice_start_eq (hcontent.trans (List.append_assoc ..))]
    · rw [String.toList_ofList, length_utf16, ← hlead]
      exact toNat_saturate32 _
  · refine ⟨String.ofList marked, ?_, ?_⟩
    · rw [encode_ofList, hfrom, hto, h.slice_eq hcontent]
    · have hunits : unitCount (lead ++ marked) - unitCount lead = unitCount marked := by
        rw [unitCount_append, Nat.add_sub_cancel_left]
      rw [String.toList_ofList, length_utf16, ← hunits, ← hwhole, ← hlead]
      exact toNat_saturate32 _
  · refine ⟨String.ofList (lead ++ marked), ?_, ?_⟩
    · rw [encode_ofList, h.lineStart_eq, hto, List.append_assoc, h.slice_start_eq hcontent]
    · rw [range_onLine, String.toList_ofList, length_utf16, ← hwhole]
      exact toNat_saturate32 _

theorem resolve_cons (lines : Lines) (span : Span) (rest : List Span) :
    resolve lines ⟨span :: rest⟩ =
      if lines.size < span.offset.toNat then .error (.outside span.offset lines.size)
      else .ok (placeSpan lines span) := rfl

/-- A first span that starts within the text has a place. -/
theorem resolve_of_le {lines : Lines} {span : Span} (h : span.offset.toNat ≤ lines.size)
    (rest : List Span) : resolve lines ⟨span :: rest⟩ = .ok (placeSpan lines span) := by
  rw [resolve_cons, if_neg (Nat.not_lt.mpr h)]

/-- The size of a text is the length of its UTF-8 form. -/
theorem size_ofText (text : String) : (Lines.ofText text).size = (Utf8.encode text).length := by
  rw [encode_eq_bytes, length_bytes]
  rfl

/-- A source map is placed where the bytes of the text say. It has no place exactly if it has no
span or if its first one starts beyond the text. -/
theorem resolve_equals_byte_specification (text : String) (map : SourceMap) :
    (resolve (Lines.ofText text) map = .error .noSpan ↔ map.spans = []) ∧
      (∀ offset size, resolve (Lines.ofText text) map = .error (.outside offset size) ↔
        size = (Utf8.encode text).length ∧
          ∃ span ∈ map.spans.head?, span.offset = offset ∧ size < offset.toNat) ∧
      ∀ span ∈ map.spans.head?, span.offset.toNat ≤ (Utf8.encode text).length →
        ∃ ref, resolve (Lines.ofText text) map = .ok ref ∧
          Placed (Utf8.encode text) span.offset.toNat span.length.toNat ref := by
  obtain ⟨spans⟩ := map
  cases spans with
  | nil => simp [resolve]
  | cons span rest =>
    rw [resolve_cons, size_ofText]
    by_cases hout : (Utf8.encode text).length < span.offset.toNat
    · rw [if_pos hout]
      refine ⟨by simp, ?_, ?_⟩
      · intro offset size
        constructor
        · rintro ⟨⟩
          exact ⟨rfl, span, rfl, rfl, hout⟩
        · rintro ⟨rfl, first, hfirst, rfl, -⟩
          obtain rfl : span = first := Option.some.inj hfirst
          rfl
      · intro first hfirst hle
        obtain rfl : span = first := Option.some.inj hfirst
        omega
    · rw [if_neg hout]
      refine ⟨by simp, ?_, ?_⟩
      · intro offset size
        constructor
        · rintro ⟨⟩
        · rintro ⟨rfl, first, hfirst, rfl, hlt⟩
          obtain rfl : span = first := Option.some.inj hfirst
          exact absurd hlt hout
      · intro first hfirst hle
        obtain rfl : span = first := Option.some.inj hfirst
        rw [← size_ofText] at hle
        obtain ⟨before, content, ending, after, h⟩ := (Lines.ofText text).exists_at hle
        refine ⟨_, rfl, ?_⟩
        rw [placeSpan_eq h, encode_eq_bytes]
        exact placed_onLine h span.length.toNat

/-- From within a character of the second line to far beyond the text. -/
theorem run_within_pair_is_placed :
    resolve (Lines.ofText "a\r\n𝄞b\r\nc") ⟨[⟨5, 0xFFFFFFFFFFFFFFFF⟩]⟩ = .ok ⟨1, 0, 3⟩ ∧
      Placed (Utf8.encode "a\r\n𝄞b\r\nc") 5 0xFFFFFFFFFFFFFFFF ⟨1, 0, 3⟩ := by
  have hresolve : resolve (Lines.ofText "a\r\n𝄞b\r\nc") ⟨[⟨5, 0xFFFFFFFFFFFFFFFF⟩]⟩ =
      .ok ⟨1, 0, 3⟩ := by decide
  obtain ⟨ref, href, hplaced⟩ := (resolve_equals_byte_specification "a\r\n𝄞b\r\nc"
    ⟨[⟨5, 0xFFFFFFFFFFFFFFFF⟩]⟩).2.2 ⟨5, 0xFFFFFFFFFFFFFFFF⟩ rfl (by rw [← size_ofText]; decide)
  rw [← Except.ok.inj (hresolve.symm.trans href)] at hplaced
  exact ⟨hresolve, hplaced⟩

end ApiBlueprint.Source
