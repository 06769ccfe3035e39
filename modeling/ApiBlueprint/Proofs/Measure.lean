import ApiBlueprint.Text.Measure
import Mathlib.Data.List.Basic

/-! Measures of text. A column counts code units of UTF-16, so a cut at a character boundary is a
column that separates no surrogate pair. -/
namespace ApiBlueprint.Text

@[simp] theorem byteCount_append (a b : List Char) :
    byteCount (a ++ b) = byteCount a + byteCount b := by
  induction a with
  | nil => simp
  | cons c rest ih => simp [ih, Nat.add_assoc]

@[simp] theorem unitCount_append (a b : List Char) :
    unitCount (a ++ b) = unitCount a + unitCount b := by
  induction a with
  | nil => simp
  | cons c rest ih => simp [ih, Nat.add_assoc]

/-- The bytes of a text are those of its characters. -/
theorem byteCount_toList (text : String) : byteCount text.toList = text.utf8ByteSize := by
  have hsize : ∀ chars : List Char, chars.utf8Encode.size = byteCount chars := by
    intro chars
    induction chars with
    | nil => rfl
    | cons c rest ih =>
      rw [List.utf8Encode_cons, ByteArray.size_append, ih, List.utf8Encode_singleton]
      simp
  rw [← hsize, ← String.toByteArray_ofList, String.ofList_toList, String.size_toByteArray]

/-- Every character takes a byte at least. -/
theorem length_le_byteCount (text : List Char) : text.length ≤ byteCount text := by
  induction text with
  | nil => exact Nat.le_refl 0
  | cons c rest ih =>
    have hpos := c.utf8Size_pos
    simp only [List.length_cons, byteCount_cons]
    omega

private theorem unitWidth_le_utf8Size (c : Char) : unitWidth c ≤ c.utf8Size := by
  have hpos := c.utf8Size_pos
  rw [unitWidth]
  split
  · exact hpos
  · rename_i hwide
    have hne : c.utf8Size ≠ 1 := by
      intro hone
      have hle : c.toNat ≤ 127 := UInt32.le_iff_toNat_le.mp (Char.utf8Size_eq_one_iff.mp hone)
      omega
    omega

/-- No character takes more units in UTF-16 than bytes in UTF-8. -/
theorem unitCount_le_byteCount (text : List Char) : unitCount text ≤ byteCount text := by
  induction text with
  | nil => exact Nat.le_refl 0
  | cons c rest ih =>
    have hc := unitWidth_le_utf8Size c
    simp only [unitCount_cons, byteCount_cons]
    omega

/-- Whole characters within some bytes stand at the start of the text. -/
theorem takeBytes_prefix (n : Nat) (text : List Char) : takeBytes n text <+: text := by
  induction text generalizing n with
  | nil => exact List.prefix_refl []
  | cons c rest ih =>
    rw [takeBytes]
    split
    · exact (List.prefix_cons_inj c).mpr (ih _)
    · exact List.nil_prefix

/-- More bytes hold no fewer characters. -/
theorem takeBytes_mono {n m : Nat} (h : n ≤ m) (text : List Char) :
    takeBytes n text <+: takeBytes m text := by
  induction text generalizing n m with
  | nil => exact List.prefix_refl []
  | cons c rest ih =>
    by_cases hn : c.utf8Size ≤ n
    · have hm : c.utf8Size ≤ m := Nat.le_trans hn h
      rw [takeBytes, takeBytes, if_pos hn, if_pos hm]
      exact (List.prefix_cons_inj c).mpr (ih (Nat.sub_le_sub_right h _))
    · rw [takeBytes, if_neg hn]
      exact List.nil_prefix

@[simp] theorem takeBytes_zero (text : List Char) : takeBytes 0 text = [] := by
  cases text with
  | nil => rfl
  | cons c rest => rw [takeBytes, if_neg (Nat.not_le_of_lt c.utf8Size_pos)]

/-- The first part of a text has no more units than the text. -/
theorem unitCount_le_of_prefix {a b : List Char} (h : a <+: b) : unitCount a ≤ unitCount b := by
  obtain ⟨rest, rfl⟩ := h
  rw [unitCount_append]
  exact Nat.le_add_right ..

/-! The code units themselves. -/

def units (c : Char) : List Nat :=
  if c.toNat < 0x10000 then [c.toNat]
  else [0xD800 + (c.toNat - 0x10000) / 0x400, 0xDC00 + (c.toNat - 0x10000) % 0x400]

def utf16 (text : List Char) : List Nat := text.flatMap units

def IsHigh (unit : Nat) : Prop := 0xD800 ≤ unit ∧ unit < 0xDC00

def IsLow (unit : Nat) : Prop := 0xDC00 ≤ unit ∧ unit < 0xE000

/-- Between the two halves of a surrogate pair. -/
def SplitsPair (form : List Nat) (column : Nat) : Prop :=
  ∃ before high low, column = before + 1 ∧ form[before]? = some high ∧
    form[column]? = some low ∧ IsHigh high ∧ IsLow low

/-- Units can be counted without writing them down. -/
theorem length_utf16 (text : List Char) : (utf16 text).length = unitCount text := by
  have hlen : ∀ c, (units c).length = unitWidth c := by
    intro c
    rw [units, unitWidth]
    split <;> rfl
  induction text with
  | nil => rfl
  | cons c rest ih =>
    rw [utf16, List.flatMap_cons, List.length_append, hlen, unitCount_cons, ← ih]
    rfl

/-- A character starts with itself or with a high surrogate. -/
private theorem not_low_of_first (c : Char) : ∀ unit ∈ (units c).head?, ¬ IsLow unit := by
  intro unit hu hlow
  obtain ⟨hge, hlt⟩ := hlow
  have hvalid : c.toNat < 0xD800 ∨ 0xDFFF < c.toNat ∧ c.toNat < 0x110000 := c.valid
  rw [units] at hu
  split at hu
  · obtain rfl : c.toNat = unit := by simpa using hu
    omega
  · simp only [List.head?_cons, Option.mem_def, Option.some.injEq] at hu
    omega

private theorem not_low_of_head (text : List Char) : ∀ unit ∈ (utf16 text).head?, ¬ IsLow unit := by
  cases text with
  | nil => nofun
  | cons c rest =>
    intro unit hu
    have hne : units c ≠ [] := by
      rw [units]
      split <;> nofun
    rw [utf16, List.flatMap_cons, List.head?_append_of_ne_nil _ hne] at hu
    exact not_low_of_first c unit hu

/-- A cut between characters splits no surrogate pair. -/
theorem not_splitsPair_of_prefix {a b : List Char} (h : a <+: b) :
    ¬ SplitsPair (utf16 b) (unitCount a) := by
  obtain ⟨rest, rfl⟩ := h
  rintro ⟨_, _, low, _, _, hget, _, hlow⟩
  refine not_low_of_head rest low ?_ hlow
  rw [utf16, List.flatMap_append, List.getElem?_append_right] at hget
  · simpa [← length_utf16, utf16, List.head?_eq_getElem?] using hget
  · exact Nat.le_of_eq (length_utf16 a)

end ApiBlueprint.Text
