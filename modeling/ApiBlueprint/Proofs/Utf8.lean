import ApiBlueprint.Text.Utf8

/-! Bytes fall into pieces in one way, and they are read as a text exactly if they are its UTF-8
form. -/
namespace ApiBlueprint.Text.Utf8

/-- Bytes that complete a pending character, each within its interval. -/
inductive Completes : Pending → List UInt8 → Char → Prop where
  | last {p : Pending} {b : UInt8} (hm : p.missing ≤ 1) (hb : p.low ≤ b.toNat ∧ b.toNat ≤ p.high) :
      Completes p [b] (Char.ofNat (p.bits * 64 + (b.toNat - 0x80)))
  | more {p : Pending} {b : UInt8} {bs : List UInt8} {c : Char} (hm : ¬ p.missing ≤ 1)
      (hb : p.low ≤ b.toNat ∧ b.toNat ≤ p.high)
      (h : Completes ⟨p.bits * 64 + (b.toNat - 0x80), p.missing - 1, 0x80, 0xBF⟩ bs c) :
      Completes p (b :: bs) c

/-- The bytes of one character. -/
inductive Character : List UInt8 → Char → Prop where
  | whole {b : UInt8} {c : Char} (h : lead b = .whole c) : Character [b] c
  | opens {b : UInt8} {p : Pending} {bs : List UInt8} {c : Char} (h : lead b = .opens p)
      (hp : Completes p bs c) : Character (b :: bs) c

/-! What the reader makes of them. -/

private theorem Completes.foldl_feed {p : Pending} {bs : List UInt8} {c : Char}
    (h : Completes p bs c)
    (read : List (Option Char)) : bs.foldl State.feed ⟨some p, read⟩ = ⟨none, some c :: read⟩ := by
  induction h with
  | last hm hb => simp [State.feed, hm, hb]
  | more hm hb _ ih =>
    rw [List.foldl_cons, ← ih]
    simp [State.feed, hm, hb]

private theorem Character.foldl_feed {bs : List UInt8} {c : Char} (h : Character bs c)
    (read : List (Option Char)) : bs.foldl State.feed ⟨none, read⟩ = ⟨none, some c :: read⟩ := by
  cases h with
  | whole h => simp [State.feed, State.start, h]
  | opens h hp =>
    rw [List.foldl_cons, ← hp.foldl_feed]
    simp [State.feed, State.start, h]

/-! The bytes of a character are those of its UTF-8 form. -/

private theorem toNat_ofNat {v : Nat} (h : v.isValidChar) : (Char.ofNat v).val.toNat = v := by
  rw [Char.ofNat, dif_pos h]
  rfl

private theorem ofNat_eq {n : Nat} {b : UInt8} (h : n = b.toNat) : UInt8.ofNat n = b := by
  rw [h, UInt8.ofNat_toNat]

section Lead
variable {b : UInt8}

private theorem lead_one (h : b.toNat < 0x80) : lead b = .whole (Char.ofNat b.toNat) := by
  simp [lead, h]

private theorem lead_two (h : 0xC2 ≤ b.toNat) (h' : b.toNat < 0xE0) :
    lead b = .opens ⟨b.toNat - 0xC0, 1, 0x80, 0xBF⟩ := by
  simp [lead, h', show ¬ b.toNat < 0x80 by omega, show ¬ b.toNat < 0xC2 by omega]

private theorem lead_three (h : 0xE0 ≤ b.toNat) (h' : b.toNat < 0xF0) :
    lead b = .opens ⟨b.toNat - 0xE0, 2, if b.toNat = 0xE0 then 0xA0 else 0x80,
      if b.toNat = 0xED then 0x9F else 0xBF⟩ := by
  have h₁ : ¬ b.toNat < 0x80 := by omega
  have h₂ : ¬ b.toNat < 0xC2 := by omega
  have h₃ : ¬ b.toNat < 0xE0 := by omega
  by_cases hlow : b.toNat = 0xE0
  · simp [lead, hlow]
  · by_cases hhigh : b.toNat = 0xED
    · simp [lead, hhigh]
    · simp [lead, h₁, h₂, h₃, h', hlow, hhigh]

private theorem lead_four (h : 0xF0 ≤ b.toNat) (h' : b.toNat < 0xF5) :
    lead b = .opens ⟨b.toNat - 0xF0, 3, if b.toNat = 0xF0 then 0x90 else 0x80,
      if b.toNat = 0xF4 then 0x8F else 0xBF⟩ := by
  have h₁ : ¬ b.toNat < 0x80 := by omega
  have h₂ : ¬ b.toNat < 0xC2 := by omega
  have h₃ : ¬ b.toNat < 0xE0 := by omega
  have h₄ : ¬ b.toNat < 0xF0 := by omega
  by_cases hlow : b.toNat = 0xF0
  · simp [lead, hlow]
  · by_cases hhigh : b.toNat = 0xF4
    · simp [lead, hhigh]
    · simp [lead, h₁, h₂, h₃, h₄, hlow, hhigh, show b.toNat < 0xF4 by omega,
        show b.toNat ≠ 0xE0 by omega, show b.toNat ≠ 0xED by omega]

private theorem lead_broken (h : 0x80 ≤ b.toNat ∧ b.toNat < 0xC2 ∨ 0xF5 ≤ b.toNat) :
    lead b = .broken := by
  rcases h with ⟨h, h'⟩ | h
  · simp [lead, h', show ¬ b.toNat < 0x80 by omega]
  · simp [lead, show ¬ b.toNat < 0x80 by omega, show ¬ b.toNat < 0xC2 by omega,
      show ¬ b.toNat < 0xE0 by omega, show ¬ b.toNat < 0xF0 by omega,
      show ¬ b.toNat < 0xF4 by omega, show b.toNat ≠ 0xE0 by omega, show b.toNat ≠ 0xED by omega,
      show b.toNat ≠ 0xF0 by omega, show b.toNat ≠ 0xF4 by omega]

/-- What a byte means by the range it is in. -/
private inductive Ranged (b : UInt8) : Lead → Prop where
  | one {c : Char} (h : b.toNat < 0x80) (hc : c = Char.ofNat b.toNat) : Ranged b (.whole c)
  | two {p : Pending} (h : 0xC2 ≤ b.toNat ∧ b.toNat < 0xE0)
      (hp : p = ⟨b.toNat - 0xC0, 1, 0x80, 0xBF⟩) : Ranged b (.opens p)
  | three {p : Pending} (h : 0xE0 ≤ b.toNat ∧ b.toNat < 0xF0)
      (hp : p = ⟨b.toNat - 0xE0, 2, if b.toNat = 0xE0 then 0xA0 else 0x80,
        if b.toNat = 0xED then 0x9F else 0xBF⟩) : Ranged b (.opens p)
  | four {p : Pending} (h : 0xF0 ≤ b.toNat ∧ b.toNat < 0xF5)
      (hp : p = ⟨b.toNat - 0xF0, 3, if b.toNat = 0xF0 then 0x90 else 0x80,
        if b.toNat = 0xF4 then 0x8F else 0xBF⟩) : Ranged b (.opens p)
  | none (h : 0x80 ≤ b.toNat ∧ b.toNat < 0xC2 ∨ 0xF5 ≤ b.toNat) : Ranged b .broken

private theorem ranged_lead (b : UInt8) : Ranged b (lead b) := by
  have hrange : b.toNat < 0x80 ∨ (0xC2 ≤ b.toNat ∧ b.toNat < 0xE0) ∨
      (0xE0 ≤ b.toNat ∧ b.toNat < 0xF0) ∨ (0xF0 ≤ b.toNat ∧ b.toNat < 0xF5) ∨
      (0x80 ≤ b.toNat ∧ b.toNat < 0xC2 ∨ 0xF5 ≤ b.toNat) := by omega
  rcases hrange with h | h | h | h | h
  · rw [lead_one h]
    exact .one h rfl
  · rw [lead_two h.1 h.2]
    exact .two h rfl
  · rw [lead_three h.1 h.2]
    exact .three h rfl
  · rw [lead_four h.1 h.2]
    exact .four h rfl
  · rw [lead_broken h]
    exact .none h

end Lead

section Completes
variable {bits low high : Nat} {bs : List UInt8} {c : Char}

private theorem completes_one :
    Completes ⟨bits, 1, low, high⟩ bs c ↔
      ∃ b, bs = [b] ∧ (low ≤ b.toNat ∧ b.toNat ≤ high) ∧
        c = Char.ofNat (bits * 64 + (b.toNat - 0x80)) := by
  constructor
  · intro h
    cases h with
    | @last _ b hm hb => exact ⟨b, rfl, hb, rfl⟩
    | more hm hb h => exact absurd (Nat.le_refl 1) hm
  · rintro ⟨b, rfl, hb, hc⟩
    rw [hc]
    exact Completes.last (p := ⟨bits, 1, low, high⟩) (Nat.le_refl 1) hb

/-- All but the last byte are followed by one that may be any continuation. -/
private theorem completes_succ {missing : Nat} (hm : 1 < missing) :
    Completes ⟨bits, missing, low, high⟩ bs c ↔
      ∃ b rest, bs = b :: rest ∧ (low ≤ b.toNat ∧ b.toNat ≤ high) ∧
        Completes ⟨bits * 64 + (b.toNat - 0x80), missing - 1, 0x80, 0xBF⟩ rest c := by
  constructor
  · intro h
    cases h with
    | last hm' hb => exact absurd hm' (Nat.not_le.mpr hm)
    | @more _ b rest _ hm' hb h => exact ⟨b, rest, rfl, hb, h⟩
  · rintro ⟨b, rest, rfl, hb, h⟩
    exact Completes.more (p := ⟨bits, missing, low, high⟩) (Nat.not_le.mpr hm) hb h

end Completes

/-! Both directions split by the number of bytes. -/

section Encode
variable {v : Nat} {b₀ b₁ b₂ b₃ : UInt8}

private theorem encode_one (h : b₀.toNat < 0x80) :
    String.utf8EncodeChar (Char.ofNat b₀.toNat) = [b₀] := by
  have hval : (Char.ofNat b₀.toNat).val.toNat = b₀.toNat := toNat_ofNat (.inl (by omega))
  simp only [String.utf8EncodeChar, hval, if_pos (show b₀.toNat ≤ 127 by omega),
    UInt8.ofNat_toNat]

private theorem encode_two (h₀ : 0xC2 ≤ b₀.toNat ∧ b₀.toNat < 0xE0)
    (h₁ : 0x80 ≤ b₁.toNat ∧ b₁.toNat ≤ 0xBF)
    (hv : v = (b₀.toNat - 0xC0) * 64 + (b₁.toNat - 0x80)) :
    String.utf8EncodeChar (Char.ofNat v) = [b₀, b₁] := by
  have hval : (Char.ofNat v).val.toNat = v := toNat_ofNat (.inl (by omega))
  simp only [String.utf8EncodeChar, hval, if_neg (show ¬ v ≤ 127 by omega),
    if_pos (show v ≤ 2047 by omega)]
  rw [ofNat_eq (b := b₀) (by omega), ofNat_eq (b := b₁) (by omega)]

private theorem encode_three (h₀ : 0xE0 ≤ b₀.toNat ∧ b₀.toNat < 0xF0)
    (h₁ : 0x80 ≤ b₁.toNat ∧ b₁.toNat ≤ 0xBF) (h₂ : 0x80 ≤ b₂.toNat ∧ b₂.toNat ≤ 0xBF)
    (hv : v = ((b₀.toNat - 0xE0) * 64 + (b₁.toNat - 0x80)) * 64 + (b₂.toNat - 0x80))
    (hmin : 0x800 ≤ v) (hs : v < 0xD800 ∨ 0xDFFF < v) :
    String.utf8EncodeChar (Char.ofNat v) = [b₀, b₁, b₂] := by
  have hval : (Char.ofNat v).val.toNat = v := toNat_ofNat (by unfold Nat.isValidChar; omega)
  simp only [String.utf8EncodeChar, hval, if_neg (show ¬ v ≤ 127 by omega),
    if_neg (show ¬ v ≤ 2047 by omega), if_pos (show v ≤ 65535 by omega)]
  rw [ofNat_eq (b := b₀) (by omega), ofNat_eq (b := b₁) (by omega), ofNat_eq (b := b₂) (by omega)]

private theorem encode_four (h₀ : 0xF0 ≤ b₀.toNat ∧ b₀.toNat < 0xF5)
    (h₁ : 0x80 ≤ b₁.toNat ∧ b₁.toNat ≤ 0xBF) (h₂ : 0x80 ≤ b₂.toNat ∧ b₂.toNat ≤ 0xBF)
    (h₃ : 0x80 ≤ b₃.toNat ∧ b₃.toNat ≤ 0xBF)
    (hv : v = (((b₀.toNat - 0xF0) * 64 + (b₁.toNat - 0x80)) * 64 + (b₂.toNat - 0x80)) * 64 +
      (b₃.toNat - 0x80))
    (hmin : 0x10000 ≤ v) (hmax : v < 0x110000) :
    String.utf8EncodeChar (Char.ofNat v) = [b₀, b₁, b₂, b₃] := by
  have hval : (Char.ofNat v).val.toNat = v := toNat_ofNat (by unfold Nat.isValidChar; omega)
  simp only [String.utf8EncodeChar, hval, if_neg (show ¬ v ≤ 127 by omega),
    if_neg (show ¬ v ≤ 2047 by omega), if_neg (show ¬ v ≤ 65535 by omega)]
  rw [ofNat_eq (b := b₀) (by omega), ofNat_eq (b := b₁) (by omega), ofNat_eq (b := b₂) (by omega),
    ofNat_eq (b := b₃) (by omega)]

end Encode

private theorem Character.encode_eq {bs : List UInt8} {c : Char} (h : Character bs c) :
    String.utf8EncodeChar c = bs := by
  cases h with
  | @whole b c h =>
    have hrange := ranged_lead b
    rw [h] at hrange
    cases hrange with
    | one hb hc =>
      rw [hc]
      exact encode_one hb
  | @opens b p bs c h hp =>
    have hrange := ranged_lead b
    rw [h] at hrange
    cases hrange with
    | two hb hlead =>
      rw [hlead] at hp
      obtain ⟨b₁, rfl, h₁, hc⟩ := completes_one.mp hp
      rw [hc]
      exact encode_two hb h₁ rfl
    | three hb hlead =>
      rw [hlead] at hp
      obtain ⟨b₁, rest, rfl, h₁, hp⟩ := (completes_succ (by decide)).mp hp
      obtain ⟨b₂, rfl, h₂, hc⟩ := completes_one.mp hp
      rw [hc]
      -- The first continuation keeps out short forms after E0 and surrogates after ED.
      have hnarrow : (b.toNat = 0xE0 → 0xA0 ≤ b₁.toNat) ∧ (b.toNat = 0xED → b₁.toNat ≤ 0x9F) ∧
          0x80 ≤ b₁.toNat ∧ b₁.toNat ≤ 0xBF := by
        split at h₁ <;> split at h₁ <;> omega
      exact encode_three hb hnarrow.2.2 h₂ rfl (by omega) (by omega)
    | four hb hlead =>
      rw [hlead] at hp
      obtain ⟨b₁, rest, rfl, h₁, hp⟩ := (completes_succ (by decide)).mp hp
      obtain ⟨b₂, rest, rfl, h₂, hp⟩ := (completes_succ (by decide)).mp hp
      obtain ⟨b₃, rfl, h₃, hc⟩ := completes_one.mp hp
      rw [hc]
      -- After F0 it keeps out short forms, and after F4 what is too large.
      have hnarrow : (b.toNat = 0xF0 → 0x90 ≤ b₁.toNat) ∧ (b.toNat = 0xF4 → b₁.toNat ≤ 0x8F) ∧
          0x80 ≤ b₁.toNat ∧ b₁.toNat ≤ 0xBF := by
        split at h₁ <;> split at h₁ <;> omega
      exact encode_four hb hnarrow.2.2 h₂ h₃ rfl (by omega) (by omega)

private theorem toNat_byte {n : Nat} (h : n < 256) : (UInt8.ofNat n).toNat = n :=
  UInt8.toNat_ofNat_of_lt' h

section Read
variable {c : Char} {n₀ n₁ n₂ n₃ : Nat}

private theorem character_one (h : n₀ < 0x80) (hc : c = Char.ofNat n₀) :
    Character [UInt8.ofNat n₀] c := by
  have h₀ := toNat_byte (show n₀ < 256 by omega)
  refine .whole ?_
  rw [lead_one (by omega), h₀, hc]

private theorem character_two (h₀ : 0xC2 ≤ n₀ ∧ n₀ < 0xE0) (h₁ : 0x80 ≤ n₁ ∧ n₁ ≤ 0xBF)
    (hc : c = Char.ofNat ((n₀ - 0xC0) * 64 + (n₁ - 0x80))) :
    Character [UInt8.ofNat n₀, UInt8.ofNat n₁] c := by
  have e₀ := toNat_byte (show n₀ < 256 by omega)
  have e₁ := toNat_byte (show n₁ < 256 by omega)
  refine .opens (lead_two (by omega) (by omega)) (completes_one.mpr ⟨_, rfl, by omega, ?_⟩)
  rw [e₀, e₁, hc]

private theorem character_three (h₀ : 0xE0 ≤ n₀ ∧ n₀ < 0xF0) (h₁ : 0x80 ≤ n₁ ∧ n₁ ≤ 0xBF)
    (hlow : n₀ = 0xE0 → 0xA0 ≤ n₁) (hhigh : n₀ = 0xED → n₁ ≤ 0x9F) (h₂ : 0x80 ≤ n₂ ∧ n₂ ≤ 0xBF)
    (hc : c = Char.ofNat (((n₀ - 0xE0) * 64 + (n₁ - 0x80)) * 64 + (n₂ - 0x80))) :
    Character [UInt8.ofNat n₀, UInt8.ofNat n₁, UInt8.ofNat n₂] c := by
  have e₀ := toNat_byte (show n₀ < 256 by omega)
  have e₁ := toNat_byte (show n₁ < 256 by omega)
  have e₂ := toNat_byte (show n₂ < 256 by omega)
  refine .opens (lead_three (by omega) (by omega)) ((completes_succ (by decide)).mpr
    ⟨_, _, rfl, ?_, completes_one.mpr ⟨_, rfl, by omega, ?_⟩⟩)
  · rw [e₀, e₁]
    split <;> split <;> omega
  · rw [e₀, e₁, e₂, hc]

private theorem character_four (h₀ : 0xF0 ≤ n₀ ∧ n₀ < 0xF5) (h₁ : 0x80 ≤ n₁ ∧ n₁ ≤ 0xBF)
    (hlow : n₀ = 0xF0 → 0x90 ≤ n₁) (hhigh : n₀ = 0xF4 → n₁ ≤ 0x8F) (h₂ : 0x80 ≤ n₂ ∧ n₂ ≤ 0xBF)
    (h₃ : 0x80 ≤ n₃ ∧ n₃ ≤ 0xBF)
    (hc : c = Char.ofNat ((((n₀ - 0xF0) * 64 + (n₁ - 0x80)) * 64 + (n₂ - 0x80)) * 64 +
      (n₃ - 0x80))) :
    Character [UInt8.ofNat n₀, UInt8.ofNat n₁, UInt8.ofNat n₂, UInt8.ofNat n₃] c := by
  have e₀ := toNat_byte (show n₀ < 256 by omega)
  have e₁ := toNat_byte (show n₁ < 256 by omega)
  have e₂ := toNat_byte (show n₂ < 256 by omega)
  have e₃ := toNat_byte (show n₃ < 256 by omega)
  refine .opens (lead_four (by omega) (by omega)) ((completes_succ (by decide)).mpr
    ⟨_, _, rfl, ?_, (completes_succ (by decide)).mpr
      ⟨_, _, rfl, by omega, completes_one.mpr ⟨_, rfl, by omega, ?_⟩⟩⟩)
  · rw [e₀, e₁]
    split <;> split <;> omega
  · rw [e₀, e₁, e₂, e₃, hc]

end Read

private theorem character_encode (c : Char) : Character (String.utf8EncodeChar c) c := by
  have hvalid : c.val.toNat < 0xD800 ∨ 0xDFFF < c.val.toNat ∧ c.val.toNat < 0x110000 := c.valid
  have hc {n : Nat} (h : n = c.val.toNat) : c = Char.ofNat n := by
    rw [h]
    exact (Char.ofNat_toNat c).symm
  unfold String.utf8EncodeChar
  dsimp only
  split
  · exact character_one (by omega) (hc rfl)
  · split
    · exact character_two (by omega) (by omega) (hc (by omega))
    · split
      · exact character_three (by omega) (by omega) (by omega) (by omega) (by omega)
          (hc (by omega))
      · exact character_four (by omega) (by omega) (by omega) (by omega) (by omega) (by omega)
          (hc (by omega))

/-! What the reader cannot use. A broken piece is as long as some character allows. -/

def Starts (bytes : List UInt8) : Prop := ∃ c, bytes <+: String.utf8EncodeChar c

/-- Bytes in pieces: characters, single bytes that start none, and characters cut short where the
next byte cannot go on. -/
inductive Pieces : List UInt8 → List (Option Char) → Prop where
  | nil : Pieces [] []
  | whole (c : Char) {rest : List UInt8} {read : List (Option Char)} (h : Pieces rest read) :
      Pieces (String.utf8EncodeChar c ++ rest) (some c :: read)
  | stray {b : UInt8} {rest : List UInt8} {read : List (Option Char)} (hb : ¬ Starts [b])
      (h : Pieces rest read) : Pieces (b :: rest) (none :: read)
  | cut {part rest : List UInt8} {read : List (Option Char)} (hne : part ≠ [])
      (hpart : Starts part) (hshort : ∀ c, String.utf8EncodeChar c ≠ part)
      (hend : ∀ b ∈ rest.head?, ¬ Starts (part ++ [b])) (h : Pieces rest read) :
      Pieces (part ++ rest) (none :: read)

/-- Bytes after which a character is pending. -/
inductive Opened : List UInt8 → Pending → Prop where
  | first {b : UInt8} {p : Pending} (h : lead b = .opens p) : Opened [b] p
  | next {part : List UInt8} {p : Pending} {b : UInt8} (h : Opened part p) (hm : ¬ p.missing ≤ 1)
      (hb : p.low ≤ b.toNat ∧ b.toNat ≤ p.high) :
      Opened (part ++ [b]) ⟨p.bits * 64 + (b.toNat - 0x80), p.missing - 1, 0x80, 0xBF⟩

/-- Any continuation bytes complete a character that is past its first one. -/
theorem exists_completion (bits missing : Nat) :
    ∃ bs c, Completes ⟨bits, missing, 0x80, 0xBF⟩ bs c := by
  induction missing generalizing bits with
  | zero => exact ⟨[0x80], _, .last (p := ⟨bits, 0, _, _⟩) (by simp) (by simp)⟩
  | succ missing ih =>
    by_cases hm : missing + 1 ≤ 1
    · exact ⟨[0x80], _, .last (p := ⟨bits, missing + 1, _, _⟩) hm (by simp)⟩
    · obtain ⟨bs, c, h⟩ := ih (bits * 64 + ((0x80 : UInt8).toNat - 0x80))
      exact ⟨0x80 :: bs, c, .more (p := ⟨bits, missing + 1, _, _⟩) hm (by simp) h⟩

private theorem exists_byte {b : UInt8} {p : Pending} (h : lead b = .opens p) :
    ∃ b₁ : UInt8, p.low ≤ b₁.toNat ∧ b₁.toNat ≤ p.high := by
  have hrange := ranged_lead b
  rw [h] at hrange
  have hp : p.low ≤ p.high ∧ p.low < 256 := by
    cases hrange with
    | two _ hp => simp [hp]
    | three _ hp =>
      rw [hp]
      dsimp only
      split <;> split <;> omega
    | four _ hp =>
      rw [hp]
      dsimp only
      split <;> split <;> omega
  refine ⟨UInt8.ofNat p.low, ?_⟩
  rw [toNat_byte hp.2]
  exact ⟨Nat.le_refl _, hp.1⟩

private theorem Character.starts {part bs : List UInt8} {c : Char} (h : Character (part ++ bs) c) :
    Starts part :=
  ⟨c, bs, h.encode_eq.symm⟩

namespace Opened
variable {part : List UInt8} {p : Pending}

private theorem foldl_feed (h : Opened part p) (read : List (Option Char)) :
    part.foldl State.feed ⟨none, read⟩ = ⟨some p, read⟩ := by
  induction h with
  | first h => simp [State.feed, State.start, h]
  | next _ hm hb ih => simp [ih, State.feed, hm, hb]

private theorem character_iff (h : Opened part p) {bs : List UInt8} {c : Char} :
    Character (part ++ bs) c ↔ Completes p bs c := by
  induction h generalizing bs with
  | first h =>
    refine ⟨fun hchar => ?_, .opens h⟩
    cases hchar with
    | whole h' => exact absurd (h.symm.trans h') (by simp)
    | opens h' hp =>
      obtain rfl := Lead.opens.inj (h.symm.trans h')
      exact hp
  | next _ hm hb ih =>
    rw [List.append_assoc, ih]
    refine ⟨fun hp => ?_, .more hm hb⟩
    cases hp with
    | last hm' => exact absurd hm' hm
    | more _ _ hp => exact hp

private theorem ne_encode (h : Opened part p) (c : Char) : String.utf8EncodeChar c ≠ part := by
  intro hc
  have hchar := character_encode c
  rw [hc, ← List.append_nil part] at hchar
  cases h.character_iff.mp hchar

/-- The interval admits exactly the bytes that some character goes on with. -/
theorem starts_iff (h : Opened part p) (b : UInt8) :
    Starts (part ++ [b]) ↔ p.low ≤ b.toNat ∧ b.toNat ≤ p.high := by
  constructor
  · rintro ⟨c, rest, hc⟩
    have hchar := character_encode c
    rw [← hc, List.append_assoc] at hchar
    cases h.character_iff.mp hchar with
    | last _ hb => exact hb
    | more _ hb _ => exact hb
  · intro hb
    by_cases hm : p.missing ≤ 1
    · have hlast := h.character_iff.mpr (.last hm hb)
      rw [← List.append_nil (part ++ [b])] at hlast
      exact hlast.starts
    · obtain ⟨bs, c, hbs⟩ := exists_completion (p.bits * 64 + (b.toNat - 0x80)) (p.missing - 1)
      exact ((h.next hm hb).character_iff.mpr hbs).starts

private theorem starts (h : Opened part p) : Starts part := by
  have hbyte : ∃ b : UInt8, p.low ≤ b.toNat ∧ b.toNat ≤ p.high := by
    cases h with
    | first h => exact exists_byte h
    | next => exact ⟨0x80, by simp⟩
  obtain ⟨b, hb⟩ := hbyte
  obtain ⟨c, hc⟩ := (h.starts_iff b).mpr hb
  exact ⟨c, (List.prefix_append part [b]).trans hc⟩

/-- A pending character is completed or cut short by what follows. -/
theorem split (h : Opened part p) (bytes : List UInt8) :
    ∃ more rest, bytes = more ++ rest ∧ ((∃ c, Character (part ++ more) c) ∨
      ∃ p', Opened (part ++ more) p' ∧ ∀ b ∈ rest.head?, ¬ Starts (part ++ more ++ [b])) := by
  induction bytes generalizing part p with
  | nil => exact ⟨[], [], rfl, .inr ⟨p, by rwa [List.append_nil], by simp⟩⟩
  | cons b bytes ih =>
    by_cases hb : p.low ≤ b.toNat ∧ b.toNat ≤ p.high
    · by_cases hm : p.missing ≤ 1
      · exact ⟨[b], bytes, rfl, .inl ⟨_, h.character_iff.mpr (.last hm hb)⟩⟩
      · obtain ⟨more, rest, rfl, hmore⟩ := ih (h.next hm hb)
        exact ⟨b :: more, rest, rfl, by simpa using hmore⟩
    · refine ⟨[], b :: bytes, rfl, .inr ⟨p, by rwa [List.append_nil], ?_⟩⟩
      intro b' hhead hstarts
      rw [← Option.some.inj hhead, List.append_nil] at hstarts
      exact hb ((h.starts_iff b).mp hstarts)

end Opened

private theorem starts_singleton (b : UInt8) : Starts [b] ↔ lead b ≠ .broken := by
  constructor
  · rintro ⟨c, rest, hc⟩
    have hchar := character_encode c
    rw [← hc, List.singleton_append] at hchar
    cases hchar with
    | whole h => simp [h]
    | opens h => simp [h]
  · intro hb
    cases h : lead b with
    | whole c => exact (show Character ([b] ++ []) c from .whole h).starts
    | opens p => exact (Opened.first h).starts
    | broken => exact absurd h hb

/-- Within a character, one is pending. -/
theorem Completes.exists_opened {p : Pending} {before more rest : List UInt8} {c : Char}
    (h : Completes p (more ++ rest) c) (hrest : rest ≠ []) (hp : Opened before p) :
    ∃ p', Opened (before ++ more) p' := by
  induction more generalizing p before with
  | nil => exact ⟨p, by rwa [List.append_nil]⟩
  | cons b more ih =>
    rw [List.cons_append] at h
    generalize htail : more ++ rest = tail at h
    cases h with
    | last => exact absurd (List.append_eq_nil_iff.mp htail).2 hrest
    | more hm hb h =>
      subst htail
      obtain ⟨p', hp'⟩ := ih h (hp.next hm hb)
      exact ⟨p', by simpa using hp'⟩

private theorem exists_opened {part : List UInt8} (hne : part ≠ []) (hpart : Starts part)
    (hshort : ∀ c, String.utf8EncodeChar c ≠ part) : ∃ p, Opened part p := by
  obtain ⟨c, rest, hc⟩ := hpart
  have hrest : rest ≠ [] := fun hnil => hshort c (by rw [← hc, hnil, List.append_nil])
  obtain ⟨b, more, rfl⟩ := List.exists_cons_of_ne_nil hne
  have hchar := character_encode c
  rw [← hc, List.cons_append] at hchar
  generalize htail : more ++ rest = tail at hchar
  cases hchar with
  | whole => exact absurd (List.append_eq_nil_iff.mp htail).2 hrest
  | opens h hp =>
    subst htail
    exact hp.exists_opened hrest (.first h)

/-! The reader finds the pieces, and there is one way to find them. -/

/-- A pending character that is not gone on with is closed as broken. -/
theorem finish_cut {p : Pending} {rest : List UInt8} (read : List (Option Char))
    (hend : ∀ b ∈ rest.head?, ¬ (p.low ≤ b.toNat ∧ b.toNat ≤ p.high)) :
    (rest.foldl State.feed ⟨some p, read⟩).finish =
      (rest.foldl State.feed ⟨none, none :: read⟩).finish := by
  cases rest with
  | nil => rfl
  | cons b rest =>
    have hfeed : State.feed ⟨some p, read⟩ b = State.feed ⟨none, none :: read⟩ b := by
      simp only [State.feed, if_neg (hend b rfl)]
    rw [List.foldl_cons, hfeed, List.foldl_cons]

private theorem Pieces.finish_eq {bytes : List UInt8} {found : List (Option Char)}
    (h : Pieces bytes found)
    (read : List (Option Char)) :
    (bytes.foldl State.feed ⟨none, read⟩).finish = read.reverse ++ found := by
  induction h generalizing read with
  | nil => simp [State.finish]
  | whole c h ih =>
    rw [List.foldl_append, (character_encode c).foldl_feed, ih]
    simp
  | @stray b rest found hb h ih =>
    have hlead : lead b = .broken := Decidable.byContradiction fun hlead =>
      hb ((starts_singleton b).mpr hlead)
    have hfeed : State.feed ⟨none, read⟩ b = ⟨none, none :: read⟩ := by
      simp [State.feed, State.start, hlead]
    rw [List.foldl_cons, hfeed, ih]
    simp
  | cut hne hpart hshort hend h ih =>
    obtain ⟨p, hp⟩ := exists_opened hne hpart hshort
    rw [List.foldl_append, hp.foldl_feed,
      finish_cut read fun b hb hin => hend b hb ((hp.starts_iff b).mpr hin), ih]
    simp

private theorem exists_pieces (bytes : List UInt8) : ∃ read, Pieces bytes read := by
  induction hn : bytes.length using Nat.strongRecOn generalizing bytes with
  | ind n ih =>
    cases bytes with
    | nil => exact ⟨[], .nil⟩
    | cons b bytes =>
      rw [List.length_cons] at hn
      have hwhole {part rest : List UInt8} {c : Char} (hc : Character part c)
          (hlt : rest.length < n) : ∃ read, Pieces (part ++ rest) read := by
        obtain ⟨read, h⟩ := ih rest.length hlt rest rfl
        rw [← hc.encode_eq]
        exact ⟨_, h.whole c⟩
      cases hb : lead b with
      | whole c => exact hwhole (.whole hb) (by omega)
      | broken =>
        obtain ⟨read, h⟩ := ih bytes.length (by omega) bytes rfl
        exact ⟨_, .stray (fun hstarts => (starts_singleton b).mp hstarts hb) h⟩
      | opens p =>
        obtain ⟨more, rest, rfl, hsplit⟩ := (Opened.first hb).split bytes
        rw [List.length_append] at hn
        rcases hsplit with ⟨c, hc⟩ | ⟨p', hp', hend⟩
        · exact hwhole hc (by omega)
        · obtain ⟨read, h⟩ := ih rest.length (by omega) rest rfl
          exact ⟨_, .cut (by simp) hp'.starts hp'.ne_encode hend h⟩

/-- The reader cuts bytes into the pieces that they fall into. -/
theorem pieces_eq_iff {bytes : List UInt8} {read : List (Option Char)} :
    pieces bytes = read ↔ Pieces bytes read := by
  constructor
  · rintro rfl
    obtain ⟨read, h⟩ := exists_pieces bytes
    have hread : pieces bytes = read := h.finish_eq []
    rwa [hread]
  · intro h
    exact h.finish_eq []

/-! Whole texts. -/

private theorem toList_loop (bytes : ByteArray) (i : Nat) (read : List UInt8) :
    ByteArray.toList.loop bytes i read = read.reverse ++ bytes.data.toList.drop i := by
  fun_induction ByteArray.toList.loop bytes i read with
  | case1 i read h ih =>
    have hi : i < bytes.data.toList.length := by simpa using h
    rw [ih, List.drop_eq_getElem_cons hi]
    simp [ByteArray.get!, h]
  | case2 i read h =>
    have hi : bytes.data.toList.length ≤ i := by simpa using h
    rw [List.drop_eq_nil_of_le hi, List.append_nil]

/-- A text is written character by character. -/
theorem encode_eq (text : String) : encode text = text.toList.flatMap String.utf8EncodeChar := by
  calc encode text
    _ = text.toByteArray.data.toList := by
      rw [encode, ByteArray.toList, toList_loop]
      rfl
    _ = (String.ofList text.toList).toByteArray.data.toList := by rw [String.ofList_toList]
    _ = text.toList.flatMap String.utf8EncodeChar := by
      rw [String.toByteArray_ofList, List.utf8Encode, List.toList_data_toByteArray]

private theorem pieces_chars (chars : List Char) :
    Pieces (chars.flatMap String.utf8EncodeChar) (chars.map some) := by
  induction chars with
  | nil => exact .nil
  | cons c chars ih => exact ih.whole c

private theorem Pieces.eq_flatMap {bytes : List UInt8} {read : List (Option Char)}
    (h : Pieces bytes read)
    (hread : read.all Option.isSome) :
    bytes = (read.filterMap id).flatMap String.utf8EncodeChar := by
  induction h with
  | nil => rfl
  | whole c h ih => exact congrArg (String.utf8EncodeChar c ++ ·) (ih (by simpa using hread))
  | stray => simp at hread
  | cut => simp at hread

/-- Bytes are read as a text exactly if they are its UTF-8 form. -/
theorem decode?_eq_some_iff {bytes : List UInt8} {text : String} :
    decode? bytes = some text ↔ encode text = bytes := by
  rw [encode_eq]
  constructor
  · intro h
    have hall : (pieces bytes).all Option.isSome := Decidable.byContradiction fun hbroken => by
      simp [decode?, hbroken] at h
    have htext : String.ofList ((pieces bytes).filterMap id) = text := by
      simpa [decode?, hall] using h
    rw [← htext, String.toList_ofList]
    exact ((pieces_eq_iff.mp rfl).eq_flatMap hall).symm
  · rintro rfl
    simp [decode?, pieces_eq_iff.mpr (pieces_chars text.toList)]

end ApiBlueprint.Text.Utf8
