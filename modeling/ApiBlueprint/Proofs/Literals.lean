import ApiBlueprint.Json.Literal
import ApiBlueprint.Json.Printer
import Mathlib.Data.List.TakeDrop

/-! Strings and whole numbers as they are written and read. A scan of what was written gives it back
and takes exactly its characters. -/
namespace ApiBlueprint.Json

/-! Strings. -/

section
variable {read rest : List Char} {chars bytes offset : Nat}

private theorem scanString_quote :
    scanString read chars bytes offset ('"' :: rest) =
      .ok ⟨String.ofList read.reverse, chars + 1, bytes + 1⟩ := by
  rw [scanString.eq_def]
  exact if_pos rfl

private theorem scanString_simple {e c : Char} (hu : e ≠ 'u') (he : simpleEscape? e = some c) :
    scanString read chars bytes offset ('\\' :: e :: rest) =
      scanString (c :: read) (chars + 2) (bytes + 2) offset rest := by
  rw [scanString.eq_def]
  simp [hu, he]

private theorem scanString_unicode {c : Char} {n : Nat}
    (h : scanUnicode (offset + bytes + 2) rest = .ok (c, n)) :
    scanString read chars bytes offset ('\\' :: 'u' :: rest) =
      scanString (c :: read) (chars + 2 + n) (bytes + 2 + n) offset (rest.drop n) := by
  rw [scanString.eq_def]
  simp [h]

private theorem scanString_char {c : Char} (hquote : c ≠ '"') (hslash : c ≠ '\\')
    (hc : 0x20 ≤ c.toNat) :
    scanString read chars bytes offset (c :: rest) =
      scanString (c :: read) (chars + 1) (bytes + c.utf8Size) offset rest := by
  rw [scanString.eq_def]
  simp [hquote, hslash, Nat.not_lt.mpr hc]

end

private theorem hexValue?_digitChar : ∀ d < 16, hexValue? (Nat.digitChar d) = some d := by decide

private theorem scanUnicode_control {n : Nat} (h : n < 0x20) (offset : Nat) (rest : List Char) :
    scanUnicode offset ('0' :: '0' :: Nat.digitChar (n / 16) :: Nat.digitChar (n % 16) :: rest) =
      .ok (Char.ofNat n, 4) := by
  have hhex : scanHex offset
      ('0' :: '0' :: Nat.digitChar (n / 16) :: Nat.digitChar (n % 16) :: rest) = .ok (n, rest) := by
    have hzero : hexValue? '0' = some 0 := by decide
    have hn : ((0 * 16 + 0) * 16 + n / 16) * 16 + n % 16 = n := by omega
    rw [scanHex, hzero, hexValue?_digitChar (n / 16) (by omega),
      hexValue?_digitChar (n % 16) (by omega)]
    simp only [hn]
  have hlow : ¬ (0xDC00 ≤ n ∧ n ≤ 0xDFFF) := by omega
  have hhigh : n < 0xD800 ∨ 0xDBFF < n := by omega
  rw [scanUnicode, hhex]
  simp only [bind, Except.bind, hlow, hhigh, if_true, if_false]
  rfl

/-- What is written for a character is read as that character. -/
theorem scanString_escapeChar (c : Char) (read : List Char) (chars bytes offset : Nat)
    (rest : List Char) :
    ∃ bytes', scanString read chars bytes offset (escapeChar c ++ rest) =
      scanString (c :: read) (chars + (escapeChar c).length) bytes' offset rest := by
  rw [escapeChar.eq_def]
  split
  · exact ⟨_, scanString_simple (by decide) rfl⟩
  · exact ⟨_, scanString_simple (by decide) rfl⟩
  · exact ⟨_, scanString_simple (by decide) rfl⟩
  · exact ⟨_, scanString_simple (by decide) rfl⟩
  · exact ⟨_, scanString_simple (by decide) rfl⟩
  · rename_i hquote hslash _ _ _
    have hchar : Char.ofNat c.toNat = c := Char.ofNat_toNat c
    split
    · rename_i hback
      exact ⟨_, scanString_simple (by decide) (by rw [← hchar, hback]; rfl)⟩
    · split
      · rename_i hform
        exact ⟨_, scanString_simple (by decide) (by rw [← hchar, hform]; rfl)⟩
      · split
        · rename_i hcontrol
          have hread := scanUnicode_control hcontrol (offset + bytes + 2) rest
          rw [hchar] at hread
          exact ⟨_, scanString_unicode hread⟩
        · rename_i hcontrol
          exact ⟨_, scanString_char hquote hslash (Nat.not_lt.mp hcontrol)⟩

/-- A string that was escaped is read up to its closing quote, whatever follows. -/
theorem scanString_escaped (s read : List Char) (chars bytes offset : Nat) (rest : List Char) :
    ∃ bytes', scanString read chars bytes offset (s.flatMap escapeChar ++ '"' :: rest) = .ok
      ⟨String.ofList (read.reverse ++ s), chars + (s.flatMap escapeChar).length + 1, bytes'⟩ := by
  induction s generalizing read chars bytes with
  | nil =>
    rw [List.flatMap_nil, List.nil_append, scanString_quote, List.append_nil]
    exact ⟨_, rfl⟩
  | cons c s ih =>
    obtain ⟨next, hc⟩ := scanString_escapeChar c read chars bytes offset
      (s.flatMap escapeChar ++ '"' :: rest)
    obtain ⟨last, hs⟩ := ih (c :: read) (chars + (escapeChar c).length) next
    refine ⟨last, ?_⟩
    rw [List.flatMap_cons, List.append_assoc, hc, hs, List.reverse_cons, List.append_assoc,
      List.length_append, ← Nat.add_assoc]
    rfl

/-! Numbers. -/

/-- What follows a value in a written text. -/
def Ends (rest : List Char) : Prop := ∃ c tail, rest = c :: tail ∧ (c = ',' ∨ c = '\n')

private theorem spanDigits_append {digits rest : List Char}
    (hdigits : ∀ c ∈ digits, c.isDigit = true) (hrest : Ends rest) :
    spanDigits (digits ++ rest) = (digits, rest) := by
  obtain ⟨c, tail, rfl, hc⟩ := hrest
  have hstop : c.isDigit = false := by rcases hc with rfl | rfl <;> rfl
  rw [spanDigits, List.span_eq_takeWhile_dropWhile, List.takeWhile_append_of_pos hdigits,
    List.dropWhile_append_of_pos hdigits, List.takeWhile_cons_of_neg (by simp [hstop]),
    List.dropWhile_cons_of_neg (by simp [hstop]), List.append_nil]

private theorem scanFraction_ends {rest : List Char} (hrest : Ends rest) (negative : Bool)
    (whole : List Char) (offset : Nat) :
    scanFraction negative whole offset rest = .ok ⟨negative, whole, none, none⟩ := by
  obtain ⟨c, tail, rfl, rfl | rfl⟩ := hrest
  · rfl
  · rfl

/-- Decimal digits begin with one that is not zero, unless the number is. -/
theorem exists_cons_toDigits (n : Nat) :
    ∃ c tail, Nat.toDigits 10 n = c :: tail ∧ c.isDigit = true ∧ (c = '0' → n = 0) := by
  induction n using Nat.strongRecOn with
  | ind n ih =>
    rw [Nat.toDigits_eq_if (by decide)]
    split
    · rename_i hlt
      have hall : ∀ d < 10, (Nat.digitChar d).isDigit = true ∧
          (Nat.digitChar d = '0' → d = 0) := by decide
      exact ⟨_, [], rfl, hall n hlt⟩
    · obtain ⟨c, tail, htail, hc, hzero⟩ := ih (n / 10) (by omega)
      rw [htail]
      refine ⟨c, _, rfl, hc, ?_⟩
      intro h
      have hquotient := hzero h
      omega

private theorem scanNumeral_toDigits (n : Nat) {rest : List Char} (hrest : Ends rest)
    (negative : Bool) (offset : Nat) :
    scanNumeral negative offset (Nat.toDigits 10 n ++ rest) =
      .ok ⟨negative, Nat.toDigits 10 n, none, none⟩ := by
  rcases Nat.eq_zero_or_pos n with rfl | hpos
  · have hhead : rest.head?.any Char.isDigit = false := by
      obtain ⟨c, tail, rfl, rfl | rfl⟩ := hrest
      · rfl
      · rfl
    rw [Nat.toDigits_of_lt_base (by decide), List.cons_append, List.nil_append]
    show (if rest.head?.any Char.isDigit = true then _ else _) = _
    rw [hhead, if_neg (by decide), scanFraction_ends hrest]
    rfl
  · obtain ⟨c, tail, htail, hc, hzero⟩ := exists_cons_toDigits n
    have hdigits : ∀ d ∈ Nat.toDigits 10 n, d.isDigit = true := fun d =>
      Nat.isDigit_of_mem_toDigits (by decide) (by decide)
    have hspan := spanDigits_append hdigits hrest
    rw [htail, List.cons_append] at hspan ⊢
    rw [scanNumeral]
    · simp only [hc, if_true, hspan, scanFraction_ends hrest]
    · intro h
      have hn := hzero h
      omega

private theorem le_ofDigitChars (digits : List Char) (n : Nat) :
    n ≤ Nat.ofDigitChars 10 digits n := by
  induction digits generalizing n with
  | nil => exact Nat.le_refl n
  | cons d digits ih =>
    rw [Nat.ofDigitChars_cons]
    have hle := ih (10 * n + (d.toNat - '0'.toNat))
    omega

/-- Digits never lower a number, so the limit is not crossed on the way. -/
private theorem absorbDigits_eq (digits : List Char) {n : Nat}
    (h : Nat.ofDigitChars 10 digits n < 0x10000000000000000) :
    absorbDigits n digits = (Nat.ofDigitChars 10 digits n, 0) := by
  induction digits generalizing n with
  | nil => rfl
  | cons d digits ih =>
    rw [Nat.ofDigitChars_cons] at h ⊢
    have hnext : n * 10 + digitValue d = 10 * n + (d.toNat - '0'.toNat) := by
      rw [digitValue, Nat.mul_comm]
    have hle := le_ofDigitChars digits (10 * n + (d.toNat - '0'.toNat))
    rw [absorbDigits]
    simp only [hnext]
    rw [if_pos (by omega), ih h]

private theorem significandOf_toDigits {n : Nat} (h : n < 0x10000000000000000) :
    significandOf (Nat.toDigits 10 n) [] = (n, 0) := by
  have hvalue : Nat.ofDigitChars 10 (Nat.toDigits 10 n) 0 = n :=
    Nat.ofDigitChars_toDigits (by decide) (by decide)
  rw [significandOf, absorbDigits_eq _ (by rwa [hvalue]), hvalue]
  rfl

/-- The digits of an unsigned number are read back, unless more of a number follows. -/
theorem scanNumber_natural (n : UInt64) {rest : List Char} (hrest : Ends rest)
    (offset : Nat) :
    scanNumber offset (Nat.toDigits 10 n.toNat ++ rest) =
      .ok ⟨.natural n, (Nat.toDigits 10 n.toNat).length, (Nat.toDigits 10 n.toNat).length⟩ := by
  have hlt : n.toNat < 0x10000000000000000 := n.toNat_lt
  have hread : Numeral.read ⟨false, Nat.toDigits 10 n.toNat, none, none⟩ = .ok (.natural n) := by
    rw [Numeral.read, Option.getD_none, significandOf_toDigits hlt]
    exact congrArg (Except.ok ∘ Number.natural) (UInt64.ofNat_toNat)
  have hchars : Numeral.chars ⟨false, Nat.toDigits 10 n.toNat, none, none⟩ =
      (Nat.toDigits 10 n.toNat).length := Nat.zero_add _
  have hnumeral := scanNumeral_toDigits n.toNat hrest false offset
  rw [scanNumber.eq_2]
  · simp only [hnumeral, bind, Except.bind, hread, hchars]
    rfl
  · -- No digit is a sign.
    intro tail htail
    obtain ⟨c, digits, hdigits, hc, -⟩ := exists_cons_toDigits n.toNat
    rw [hdigits, List.cons_append] at htail
    rw [(List.cons.inj htail).1] at hc
    cases hc

/-- So are those of a negative number behind its sign. -/
theorem scanNumber_negative {n : Nat} (hpos : 0 < n) (hle : n ≤ 0x8000000000000000)
    {rest : List Char} (hrest : Ends rest) (offset : Nat) :
    scanNumber offset ('-' :: Nat.toDigits 10 n ++ rest) =
      .ok ⟨.negative (Int64.ofInt (-Int.ofNat n)), (Nat.toDigits 10 n).length + 1,
        (Nat.toDigits 10 n).length + 1⟩ := by
  have hread : Numeral.read ⟨true, Nat.toDigits 10 n, none, none⟩ =
      .ok (.negative (Int64.ofInt (-Int.ofNat n))) := by
    rw [Numeral.read, Option.getD_none, significandOf_toDigits (by omega)]
    simp [Numeral.ofSignificand, hpos, hle]
  have hchars : Numeral.chars ⟨true, Nat.toDigits 10 n, none, none⟩ =
      (Nat.toDigits 10 n).length + 1 := Nat.add_comm 1 _
  have hnumeral := scanNumeral_toDigits n hrest true (offset + 1)
  rw [List.cons_append, scanNumber.eq_1, hnumeral]
  simp only [bind, Except.bind, hread, hchars]
  rfl

end ApiBlueprint.Json
