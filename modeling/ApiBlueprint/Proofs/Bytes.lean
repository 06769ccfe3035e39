import ApiBlueprint.Proofs.Measure
import ApiBlueprint.Proofs.Utf8
import Mathlib.Data.Nat.Find

/-! The bytes of a text. Boundaries of characters and feeds can be told from the bytes alone, and a
cut that falls back to whole characters falls back to the last boundary before it. -/
namespace ApiBlueprint.Text

/-- The UTF-8 form of a run of characters. -/
def bytes (text : List Char) : List UInt8 := text.flatMap String.utf8EncodeChar

/-- A text and its characters have the same UTF-8 form. -/
theorem encode_eq_bytes (text : String) : Utf8.encode text = bytes text.toList :=
  Utf8.encode_eq text

theorem encode_ofList (text : List Char) : Utf8.encode (String.ofList text) = bytes text := by
  rw [encode_eq_bytes, String.toList_ofList]

@[simp] theorem bytes_nil : bytes [] = [] := rfl

@[simp] theorem bytes_cons (c : Char) (text : List Char) :
    bytes (c :: text) = String.utf8EncodeChar c ++ bytes text := rfl

@[simp] theorem bytes_append (a b : List Char) : bytes (a ++ b) = bytes a ++ bytes b :=
  List.flatMap_append

/-- Bytes can be counted without writing them down. -/
@[simp] theorem length_bytes (text : List Char) : (bytes text).length = byteCount text := by
  induction text with
  | nil => rfl
  | cons c rest ih => rw [bytes_cons, List.length_append, ih, String.length_utf8EncodeChar,
      byteCount_cons]

/-! Bytes below `0x80` are characters of their own. -/

private theorem eq_of_ascii_mem {c : Char} {b : UInt8} (h : b ∈ String.utf8EncodeChar c)
    (hb : b.toNat < 0x80) : c = Char.ofNat b.toNat := by
  have hbyte {n : Nat} (hn : n < 256) (hlarge : 0x80 ≤ n) : b ≠ UInt8.ofNat n := by
    rintro rfl
    rw [UInt8.toNat_ofNat_of_lt' hn] at hb
    omega
  unfold String.utf8EncodeChar at h
  dsimp only at h
  split at h
  · rename_i hsmall
    rw [List.mem_singleton.mp h, UInt8.toNat_ofNat_of_lt' (Nat.lt_of_le_of_lt hsmall (by decide))]
    exact (Char.ofNat_toNat c).symm
  · -- All bytes of a longer form have their highest bit set.
    exfalso
    split at h
    · simp only [List.mem_cons, List.not_mem_nil, or_false] at h
      rcases h with h | h <;> exact hbyte (by omega) (by omega) h
    · split at h
      · simp only [List.mem_cons, List.not_mem_nil, or_false] at h
        rcases h with h | h | h <;> exact hbyte (by omega) (by omega) h
      · simp only [List.mem_cons, List.not_mem_nil, or_false] at h
        rcases h with h | h | h | h <;> exact hbyte (by omega) (by omega) h

def feed : UInt8 := 0x0A

def carriage : UInt8 := 0x0D

private theorem bytes_feed : String.utf8EncodeChar '\n' = [feed] := by decide

private theorem feed_mem_utf8EncodeChar {c : Char} (h : feed ∈ String.utf8EncodeChar c) :
    c = '\n' :=
  eq_of_ascii_mem h (by decide)

/-- The byte of a feed occurs in no other character. -/
theorem feed_not_mem_bytes {text : List Char} (h : '\n' ∉ text) : feed ∉ bytes text := by
  intro hfeed
  obtain ⟨c, hc, hmem⟩ := List.mem_flatMap.mp hfeed
  exact h (feed_mem_utf8EncodeChar hmem ▸ hc)

/-- Feeds can be counted among the bytes. -/
theorem count_feed_bytes (text : List Char) : (bytes text).count feed = text.count '\n' := by
  induction text with
  | nil => rfl
  | cons c rest ih =>
    rw [bytes_cons, List.count_append, ih, List.count_cons, Nat.add_comm]
    congr 1
    by_cases hc : c = '\n'
    · rw [hc, bytes_feed]
      rfl
    · rw [List.count_eq_zero.mpr fun hfeed => hc (feed_mem_utf8EncodeChar hfeed)]
      simp [hc]

/-- The byte of a return ends no other character. -/
theorem getLast?_bytes_ne_carriage {text : List Char} (h : text.getLast? ≠ some '\r') :
    (bytes text).getLast? ≠ some carriage := by
  intro hlast
  cases hc : text.getLast? with
  | none =>
    rw [List.getLast?_eq_none_iff.mp hc] at hlast
    cases hlast
  | some c =>
    obtain ⟨init, rfl⟩ := List.getLast?_eq_some_iff.mp hc
    have hmem : carriage ∈ String.utf8EncodeChar c := by
      rw [bytes_append, List.getLast?_append_of_ne_nil _ (by simp)] at hlast
      simpa using List.mem_of_getLast? hlast
    rw [hc, eq_of_ascii_mem hmem (by decide)] at h
    exact h rfl

/-! Boundaries. -/

/-- A character starts at `i`, or the bytes end there. -/
def IsBoundary (form : List UInt8) (i : Nat) : Prop :=
  i = form.length ∨ ∃ b ∈ form[i]?, b.IsUTF8FirstByte

instance (form : List UInt8) : DecidablePred (IsBoundary form) := fun i =>
  inferInstanceAs (Decidable (i = form.length ∨ ∃ b ∈ form[i]?, b.IsUTF8FirstByte))

private theorem isBoundary_first (c : Char) (form : List UInt8) {i : Nat}
    (h : i < c.utf8Size) : IsBoundary (String.utf8EncodeChar c ++ form) i ↔ i = 0 := by
  have hi : i < (String.utf8EncodeChar c).length := by rwa [String.length_utf8EncodeChar]
  have hne : i ≠ (String.utf8EncodeChar c ++ form).length := by
    rw [List.length_append]
    omega
  rw [IsBoundary, or_iff_right hne, List.getElem?_append_left hi, List.getElem?_eq_getElem hi]
  simp [UInt8.isUTF8FirstByte_getElem_utf8EncodeChar]

private theorem isBoundary_later (c : Char) (form : List UInt8) (i : Nat) :
    IsBoundary (String.utf8EncodeChar c ++ form) (c.utf8Size + i) ↔ IsBoundary form i := by
  have hlen := String.length_utf8EncodeChar c
  rw [IsBoundary, IsBoundary, List.getElem?_append_right (by omega), List.length_append, hlen,
    Nat.add_sub_cancel_left, Nat.add_left_cancel_iff]

/-- The boundaries of a text are where its first characters end. -/
theorem isBoundary_bytes_iff {text : List Char} {i : Nat} :
    IsBoundary (bytes text) i ↔ ∃ before, before <+: text ∧ byteCount before = i := by
  induction text generalizing i with
  | nil => simp [IsBoundary, eq_comm]
  | cons c rest ih =>
    rw [bytes_cons]
    rcases Nat.lt_or_ge i c.utf8Size with hi | hi
    · rw [isBoundary_first c _ hi]
      constructor
      · rintro rfl
        exact ⟨[], List.nil_prefix, rfl⟩
      · rintro ⟨before, hpre, hbefore⟩
        rcases List.prefix_cons_iff.mp hpre with rfl | ⟨before, rfl, -⟩
        · exact hbefore.symm
        · rw [byteCount_cons] at hbefore
          omega
    · obtain ⟨j, rfl⟩ := Nat.exists_eq_add_of_le hi
      rw [isBoundary_later, ih]
      constructor
      · rintro ⟨before, hpre, rfl⟩
        exact ⟨c :: before, (List.prefix_cons_inj c).mpr hpre, rfl⟩
      · rintro ⟨before, hpre, hbefore⟩
        have hpos := c.utf8Size_pos
        rcases List.prefix_cons_iff.mp hpre with rfl | ⟨tail, rfl, htail⟩
        · rw [byteCount_nil] at hbefore
          omega
        · rw [byteCount_cons] at hbefore
          exact ⟨tail, htail, by omega⟩

/-! The longest run of whole characters within some bytes. -/

/-- Whole characters within `n` bytes take no more than `n`. -/
theorem byteCount_takeBytes_le (n : Nat) (text : List Char) : byteCount (takeBytes n text) ≤ n := by
  induction text generalizing n with
  | nil => exact Nat.zero_le n
  | cons c rest ih =>
    rw [takeBytes]
    split
    · have := ih (n - c.utf8Size)
      rw [byteCount_cons]
      omega
    · exact Nat.zero_le n

private theorem prefix_takeBytes {before text : List Char} {n : Nat} (h : before <+: text)
    (hn : byteCount before ≤ n) : before <+: takeBytes n text := by
  induction text generalizing before n with
  | nil =>
    rw [List.prefix_nil.mp h]
    exact List.nil_prefix
  | cons c rest ih =>
    rcases List.prefix_cons_iff.mp h with rfl | ⟨tail, rfl, htail⟩
    · exact List.nil_prefix
    · rw [byteCount_cons] at hn
      rw [takeBytes, if_pos (by omega)]
      exact (List.prefix_cons_inj c).mpr (ih htail (by omega))

/-- The first part of a text is no longer than the text. -/
theorem byteCount_le_of_prefix {a b : List Char} (h : a <+: b) : byteCount a ≤ byteCount b := by
  obtain ⟨rest, rfl⟩ := h
  rw [byteCount_append]
  exact Nat.le_add_right ..

/-- The last boundary that is not above `n`. -/
def floorBoundary (form : List UInt8) (n : Nat) : Nat := Nat.findGreatest (IsBoundary form) n

/-- Looking back for a boundary among the bytes finds the end of the last whole character. -/
theorem floorBoundary_bytes (text : List Char) (n : Nat) :
    floorBoundary (bytes text) n = byteCount (takeBytes n text) := by
  rw [floorBoundary, Nat.findGreatest_eq_iff]
  refine ⟨byteCount_takeBytes_le n text, ?_, ?_⟩
  · intro _
    exact isBoundary_bytes_iff.mpr ⟨_, takeBytes_prefix n text, rfl⟩
  · intro m hlt hm hboundary
    obtain ⟨before, hpre, rfl⟩ := isBoundary_bytes_iff.mp hboundary
    have hle := byteCount_le_of_prefix (prefix_takeBytes hpre hm)
    exact Nat.not_le_of_lt hlt hle

/-- There is a boundary to be found, as a text starts with one. -/
theorem isBoundary_floorBoundary (text : List Char) (n : Nat) :
    IsBoundary (bytes text) (floorBoundary (bytes text) n) := by
  rw [floorBoundary_bytes, isBoundary_bytes_iff]
  exact ⟨takeBytes n text, takeBytes_prefix n text, rfl⟩

private theorem takeBytes_of_le {text : List Char} {n : Nat} (h : byteCount text ≤ n) :
    takeBytes n text = text := by
  have hsub := takeBytes_prefix n text
  have hpre := prefix_takeBytes (List.prefix_refl text) h
  exact hsub.eq_of_length_le hpre.length_le

/-- A cut beyond the first part of a text falls into the second. -/
theorem takeBytes_append (a b : List Char) (n : Nat) :
    takeBytes (byteCount a + n) (a ++ b) = a ++ takeBytes n b := by
  induction a with
  | nil => simp
  | cons c rest ih =>
    rw [byteCount_cons, List.cons_append, takeBytes, if_pos (by omega), List.cons_append, ← ih]
    congr 2
    omega

/-- A cut within the first part of a text does not depend on the second. -/
theorem takeBytes_append_of_le {a : List Char} {n : Nat} (h : n ≤ byteCount a) (b : List Char) :
    takeBytes n (a ++ b) = takeBytes n a := by
  induction a generalizing n with
  | nil =>
    obtain rfl : n = 0 := Nat.le_zero.mp h
    simp
  | cons c rest ih =>
    rw [byteCount_cons] at h
    rw [List.cons_append, takeBytes, takeBytes]
    split
    · rw [ih (by omega)]
    · rfl

/-- A cut beyond the end is a cut at the end. -/
theorem takeBytes_min (n : Nat) (text : List Char) :
    takeBytes (min n (byteCount text)) text = takeBytes n text := by
  rcases Nat.le_total n (byteCount text) with h | h
  · rw [Nat.min_eq_left h]
  · rw [Nat.min_eq_right h, takeBytes_of_le (Nat.le_refl _), takeBytes_of_le h]

/-! Parts. -/

/-- The bytes from `i` up to but not including `j`. -/
def slice (form : List UInt8) (i j : Nat) : List UInt8 := (form.drop i).take (j - i)

theorem length_slice (form : List UInt8) (i j : Nat) :
    (slice form i j).length = min (j - i) (form.length - i) := by
  rw [slice, List.length_take, List.length_drop]

/-- A part and all that follows it. -/
theorem slice_append_drop (form : List UInt8) {i j : Nat} (h : i ≤ j) :
    slice form i j ++ form.drop j = form.drop i := by
  obtain ⟨n, rfl⟩ := Nat.exists_eq_add_of_le h
  rw [slice, Nat.add_sub_cancel_left, ← List.drop_drop, List.take_append_drop]

private theorem slice_append (a b c : List UInt8) :
    slice (a ++ b ++ c) a.length (a.length + b.length) = b := by
  rw [slice, List.append_assoc, List.drop_left, Nat.add_sub_cancel_left, List.take_left]

theorem drop_bytes (a : List Char) (form : List UInt8) :
    (bytes a ++ form).drop (byteCount a) = form := by
  rw [← length_bytes, List.drop_left]

/-- The bytes of a part of a text are those at its place. -/
theorem slice_bytes (a b c : List Char) :
    slice (bytes (a ++ b ++ c)) (byteCount a) (byteCount a + byteCount b) = bytes b := by
  have hslice := slice_append (bytes a) (bytes b) (bytes c)
  rwa [length_bytes, length_bytes, ← bytes_append, ← bytes_append] at hslice

end ApiBlueprint.Text
