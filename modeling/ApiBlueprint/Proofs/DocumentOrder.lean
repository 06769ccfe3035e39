import ApiBlueprint.Proofs.Navigation

/-! Places follow the order of the text. An offset further on is never placed before an earlier one,
and two offsets have the same place only if one of them is within a character or an ending. -/
namespace ApiBlueprint.Text

/-- Between the return and the feed of one ending. -/
def SplitsEnding (form : List UInt8) (i : Nat) : Prop :=
  0 < i ∧ form[i - 1]? = some carriage ∧ form[i]? = some feed

instance (form : List UInt8) (i : Nat) : Decidable (SplitsEnding form i) :=
  inferInstanceAs (Decidable (0 < i ∧ form[i - 1]? = some carriage ∧ form[i]? = some feed))

namespace Lines.At
variable {lines : Lines} {offset : Nat} {before after : List (List Char × Ending)}
  {content : List Char} {ending : Ending} (h : lines.At offset before content ending after)
include h

/-- An offset beyond the content of its line is within the ending. -/
theorem le_contentEnd (hin : ¬ SplitsEnding (bytes lines.text) offset) :
    offset ≤ contentEnd (bytes lines.text) (lineStart (bytes lines.text) offset) := by
  have hstop := h.le_stop
  rw [h.lineStart_eq, h.contentEnd_eq]
  cases ending with
  | unclosed => exact hstop
  | lf => exact hstop
  | crlf =>
    refine Nat.le_of_lt_succ (Nat.lt_of_le_of_ne hstop fun hbeyond => hin ?_)
    have hform : bytes lines.text =
        bytes (joined before ++ content) ++ carriage :: feed :: bytes (joined after) := by
      rw [h.bytes_eq, bytes_append]
      simp only [List.append_assoc]
      rfl
    have hlength : offset = (bytes (joined before ++ content)).length + 1 := by
      rw [hbeyond, length_bytes, byteCount_append]
    refine ⟨by omega, ?_, ?_⟩
    · rw [hform, hlength, Nat.add_sub_cancel]
      simp
    · rw [hform, hlength, List.getElem?_append_right (Nat.le_add_right ..),
        Nat.add_sub_cancel_left]
      rfl

/-- A later offset is on the same line or on one further down. -/
theorem length_lt_or_eq {later : Nat} {before' after' : List (List Char × Ending)}
    {content' : List Char} {ending' : Ending} (h' : lines.At later before' content' ending' after')
    (hle : offset ≤ later) :
    before.length < before'.length ∨ before = before' ∧ content = content' := by
  have hfeeds : before.length ≤ before'.length := by
    rw [← h.count_take_eq, ← h'.count_take_eq]
    exact (List.take_sublist_take_left hle).count_le feed
  rcases Nat.lt_or_eq_of_le hfeeds with hlt | hlength
  · exact .inl hlt
  · obtain ⟨hbefore, hrest⟩ := List.append_inj (h.cut.symm.trans h'.cut) hlength
    exact .inr ⟨hbefore, (Prod.mk.inj (List.cons.inj hrest).1).1⟩

end Lines.At

end ApiBlueprint.Text

namespace ApiBlueprint.Source
open Text

private theorem saturate32_mono {m n : Nat} (h : m ≤ n) : saturate32 m ≤ saturate32 n := by
  rw [UInt32.le_iff_toNat_le, toNat_saturate32, toNat_saturate32]
  omega

private theorem saturate32_lt {m n : Nat} (h : m < n) (hn : n < 2 ^ 32) :
    saturate32 m < saturate32 n := by
  rw [UInt32.lt_iff_toNat_lt, toNat_saturate32_of_lt (Nat.lt_trans h hn),
    toNat_saturate32_of_lt hn]
  exact h

namespace Position

private theorem isLE_order_iff {p q : Position} :
    (p.order q).isLE = true ↔ p.line < q.line ∨ p.line = q.line ∧ p.character ≤ q.character := by
  rw [order, Ordering.isLE_then_iff_or, Std.compare_eq_lt, Std.compare_eq_iff_eq, Std.isLE_compare]

private theorem eq_of_order_eq {p q : Position} (h : p.order q = .eq) : p = q := by
  obtain ⟨hline, hcharacter⟩ := Ordering.then_eq_eq.mp h
  rw [Std.compare_eq_iff_eq] at hline hcharacter
  obtain ⟨line, character⟩ := p
  subst hline hcharacter
  rfl

private theorem order_eq_lt {p q : Position} (hle : (p.order q).isLE = true) (hne : p ≠ q) :
    p.order q = .lt := by
  cases horder : p.order q with
  | lt => rfl
  | eq => exact absurd (eq_of_order_eq horder) hne
  | gt => simp [horder] at hle

end Position

/-- Within a line the column follows the offset, and lines follow each other. -/
theorem isLE_order_placeSpan {lines : Lines} (hsize : lines.size < 2 ^ 32) {a b : Span}
    (hle : a.offset ≤ b.offset) (hb : b.offset.toNat ≤ lines.size) :
    ((placeSpan lines a).range.start.order (placeSpan lines b).range.start).isLE = true := by
  rw [UInt64.le_iff_toNat_le] at hle
  obtain ⟨before, content, ending, after, h⟩ := lines.exists_at (Nat.le_trans hle hb)
  obtain ⟨before', content', ending', after', h'⟩ := lines.exists_at hb
  rw [Position.isLE_order_iff, placeSpan_eq h, placeSpan_eq h', range_onLine, range_onLine]
  rcases h.length_lt_or_eq h' hle with hlt | ⟨rfl, rfl⟩
  · exact .inl (saturate32_lt hlt (Nat.lt_of_le_of_lt h'.length_before_le hsize))
  · have hlead := takeBytes_mono (Nat.sub_le_sub_right hle (byteCount (joined before))) content
    have hcolumn := unitCount_le_of_prefix hlead
    exact .inr ⟨rfl, saturate32_mono hcolumn⟩

/-- An offset at a character and not within an ending is where an editor puts its place. -/
theorem offsetOf?_placeSpan {text : String} (hsize : text.utf8ByteSize < 2 ^ 32) {span : Span}
    (hle : span.offset.toNat ≤ (Utf8.encode text).length)
    (hboundary : IsBoundary (Utf8.encode text) span.offset.toNat)
    (hin : ¬ SplitsEnding (Utf8.encode text) span.offset.toNat) :
    offsetOf? text (placeSpan (Lines.ofText text) span).range.start = some span.offset.toNat := by
  rw [← size_ofText] at hle
  rw [encode_eq_bytes] at hboundary hin
  obtain ⟨before, content, ending, after, h⟩ := (Lines.ofText text).exists_at hle
  have hshown := (shown_onLine h hsize span.length.toNat).start
  rw [encode_eq_bytes, clip_of_isBoundary hboundary (h.le_contentEnd hin)] at hshown
  rw [placeSpan_eq h, hshown]

/-- Places are in the order of their offsets. They differ where the offsets do, unless one is within
a character or an ending. -/
theorem places_follow_offsets (text : String) (hsize : text.utf8ByteSize < 2 ^ 32) (a b : Span)
    (more more' : List Span) (hle : a.offset ≤ b.offset)
    (hb : b.offset.toNat ≤ (Utf8.encode text).length) :
    ∃ p q, resolve (Lines.ofText text) ⟨a :: more⟩ = .ok p ∧
      resolve (Lines.ofText text) ⟨b :: more'⟩ = .ok q ∧
      (p.range.start.order q.range.start).isLE = true ∧
      (a.offset < b.offset →
        IsBoundary (Utf8.encode text) a.offset.toNat →
        IsBoundary (Utf8.encode text) b.offset.toNat →
        ¬ SplitsEnding (Utf8.encode text) a.offset.toNat →
        ¬ SplitsEnding (Utf8.encode text) b.offset.toNat →
        p.range.start.order q.range.start = .lt ∧ p.range.start ≠ q.range.start) := by
  have ha : a.offset.toNat ≤ (Utf8.encode text).length :=
    Nat.le_trans (UInt64.le_iff_toNat_le.mp hle) hb
  have ha' : a.offset.toNat ≤ (Lines.ofText text).size := size_ofText text ▸ ha
  have hb' : b.offset.toNat ≤ (Lines.ofText text).size := size_ofText text ▸ hb
  have horder := isLE_order_placeSpan (Lines.size_ofText_eq text ▸ hsize) hle hb'
  refine ⟨_, _, resolve_of_le ha' more, resolve_of_le hb' more', horder, ?_⟩
  intro hlt hboundary hboundary' hin hin'
  have hne : (placeSpan (Lines.ofText text) a).range.start ≠
      (placeSpan (Lines.ofText text) b).range.start := by
    intro hsame
    have hfrom := offsetOf?_placeSpan hsize ha hboundary hin
    rw [hsame, offsetOf?_placeSpan hsize hb hboundary' hin'] at hfrom
    exact Nat.ne_of_gt (UInt64.lt_iff_toNat_lt.mp hlt) (Option.some.inj hfrom)
  exact ⟨Position.order_eq_lt horder hne, hne⟩

/-- The end of a line and the start of the next. -/
theorem line_end_before_next_start :
    "a\r\n𝄞b".utf8ByteSize < 2 ^ 32 ∧
      resolve (Lines.ofText "a\r\n𝄞b") ⟨[⟨1, 9⟩]⟩ = .ok ⟨0, 1, 0⟩ ∧
      resolve (Lines.ofText "a\r\n𝄞b") ⟨[⟨3, 4⟩]⟩ = .ok ⟨1, 0, 2⟩ ∧
      Position.order ⟨0, 1⟩ ⟨1, 0⟩ = .lt := by
  have hsize : "a\r\n𝄞b".utf8ByteSize < 2 ^ 32 := by decide
  have hform : Utf8.encode "a\r\n𝄞b" = [0x61, 0x0D, 0x0A, 0xF0, 0x9D, 0x84, 0x9E, 0x62] := by
    rw [encode_eq_bytes]
    decide
  have hend : resolve (Lines.ofText "a\r\n𝄞b") ⟨[⟨1, 9⟩]⟩ = .ok ⟨0, 1, 0⟩ := by decide
  have hstart : resolve (Lines.ofText "a\r\n𝄞b") ⟨[⟨3, 4⟩]⟩ = .ok ⟨1, 0, 2⟩ := by decide
  obtain ⟨p, q, hp, hq, -, hlt⟩ := places_follow_offsets _ hsize ⟨1, 9⟩ ⟨3, 4⟩ [] [] (by decide)
    (by rw [hform]; decide)
  rw [← Except.ok.inj (hend.symm.trans hp), ← Except.ok.inj (hstart.symm.trans hq), hform] at hlt
  exact ⟨hsize, hend, hstart,
    (hlt (by decide) (by decide) (by decide) (by decide) (by decide)).1⟩

/-- Within the ending and within the pair the place before them is given again. -/
example : resolve (Lines.ofText "a\r\n𝄞b") ⟨[⟨2, 0⟩]⟩ = .ok ⟨0, 1, 0⟩ ∧
    resolve (Lines.ofText "a\r\n𝄞b") ⟨[⟨5, 3⟩]⟩ = .ok ⟨1, 0, 3⟩ := by decide

end ApiBlueprint.Source
