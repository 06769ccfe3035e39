import ApiBlueprint.Uri.Fold.Letter
import ApiBlueprint.Uri.Fold.Spelling
import ApiBlueprint.Uri.Refused

/-! How the characters of a domain name are folded into small letters and plain forms. -/
namespace ApiBlueprint.Uri

/-- Whether a code point lies in one of several intervals, ends included. -/
def within (intervals : List (Nat × Nat)) (c : Char) : Bool :=
  intervals.any fun i => i.1 ≤ c.toNat && c.toNat ≤ i.2

/-- Characters that leave no trace. -/
def ignorable : List (Nat × Nat) := [
  (0xAD, 0xAD), (0x34F, 0x34F), (0x115F, 0x1160), (0x17B4, 0x17B5), (0x180B, 0x180F),
  (0x200B, 0x200B), (0x2060, 0x2064), (0x206A, 0x206F), (0x3164, 0x3164), (0xFE00, 0xFE0F),
  (0xFEFF, 0xFEFF), (0xFFA0, 0xFFA0), (0x1BCA0, 0x1BCA3), (0x1D173, 0x1D17A), (0xE0100, 0xE01EF)]

/-- Characters that have a plain form, but none that the tables list. They are left alone. -/
def variants : List (Nat × Nat) := [
  (0x558, 0x558), (0x58B, 0x58C), (0xA7DD, 0xA7DD), (0x107BB, 0x107BF), (0x1D6A6, 0x1D6A7),
  (0x1DF40, 0x1DF40), (0x1DFCD, 0x1DFFF)]

/-- The one character that a character becomes, if it is another. -/
def foldLetter? (c : Char) : Option Char :=
  let n := c.toNat
  match shifts.find? fun shift => shift.1 ≤ n && n ≤ shift.2.1 with
  | some (first, _, target) => some (Char.ofNat (target + (n - first)))
  | none =>
    if alternations.any fun i => i.1 ≤ n && n ≤ i.2 && (n - i.1) % 2 == 0 then
      some (Char.ofNat (n + 1))
    else
      ((lettersLow ++ ideographsLow ++ lettersHigh ++ ideographsHigh).lookup n).map Char.ofNat

/-- What a character becomes, unless it is refused. -/
def fold? (c : Char) : Option (List Char) :=
  if c.toNat < 0x80 then some [c.toLower]
  else if isRefused c then none
  else if within ignorable c then some []
  else
    match foldLetter? c with
    | some d => some [d]
    | none =>
      match (spellingsLow ++ spellingsMiddle ++ spellingsHigh).lookup c.toNat with
      | some text => some text.toList
      | none => some [c]

/-- ASCII that no domain name may hold. -/
def isBarred (c : Char) : Bool :=
  c.toNat ≤ 0x20 || c.toNat == 0x7F || "%#/:<>?@[\\]^|".toList.contains c

/-- Whether a character is allowed and in plain form. -/
def isFolded (c : Char) : Bool := fold? c == some [c] && !within variants c && !isBarred c

end ApiBlueprint.Uri
