import ApiBlueprint.Json.Fault
import ApiBlueprint.Json.Value
import ApiBlueprint.Text.Measure

/-! The literals of JSON: words, numbers and strings. A scan starts at a given byte offset,
tells how many characters it took, and stops at the first fault. -/
namespace ApiBlueprint.Json

/-- A literal, the characters it takes and their bytes. -/
structure Scanned (α : Type) where
  value : α
  chars : Nat
  bytes : Nat
  deriving Repr

/-- Read the remaining letters of a word. A wrong letter is taken. -/
def scanWord {α : Type} (value : α) (offset taken : Nat) :
    List Char → List Char → Except Fault (Scanned α)
  | [], _ => .ok ⟨value, taken, taken⟩
  | _ :: _, [] => .error ⟨.endInValue, offset⟩
  | w :: word, c :: rest =>
    if c = w then scanWord value (offset + 1) (taken + 1) word rest
    else .error ⟨.expectedIdent, offset + 1⟩

def spanDigits (text : List Char) : List Char × List Char := text.span Char.isDigit

def digitValue (c : Char) : Nat := c.toNat - '0'.toNat

/-- Append digits to a significand while it stays within 64 bits; the second part is the
number of digits left over. -/
def absorbDigits : Nat → List Char → Nat × Nat
  | significand, [] => (significand, 0)
  | significand, d :: rest =>
    let next := significand * 10 + digitValue d
    if next < 0x10000000000000000 then absorbDigits next rest else (significand, rest.length + 1)

/-- A significand of 64 bits and a power of ten. Integer digits that do not fit are counted
in the exponent; places that do not fit are dropped. -/
def significandOf (whole places : List Char) : Nat × Int :=
  let (s, excess) := absorbDigits 0 whole
  let (t, dropped) := absorbDigits s places
  (t, Int.ofNat excess - Int.ofNat (places.length - dropped))

def exponentLimit : Nat := 0x7FFFFFFF

/-- Digits of an exponent up to and including the one that crosses the limit, if one does. -/
def overflowAt (value taken : Nat) : List Char → Option Nat
  | [] => none
  | d :: rest =>
    let next := value * 10 + digitValue d
    if exponentLimit < next then some (taken + 1) else overflowAt next (taken + 1) rest

/-- An explicit exponent: its sign, the characters before its digits, and the digits. -/
structure Exponent where
  negative : Bool
  lead : Nat
  digits : List Char
  deriving Repr

/-- The parts of a number. -/
structure Numeral where
  negative : Bool
  whole : List Char
  places : Option (List Char)
  exponent : Option Exponent
  deriving Repr

namespace Numeral

def placesChars (n : Numeral) : Nat := n.places.elim 0 fun ps => ps.length + 1

def leadChars (n : Numeral) : Nat :=
  (if n.negative then 1 else 0) + n.whole.length + n.placesChars + n.exponent.elim 0 Exponent.lead

def chars (n : Numeral) : Nat := n.leadChars + n.exponent.elim 0 fun e => e.digits.length

def signed (negative : Bool) (x : Number.Binary64) : Number := .real { x with negative }

/-- The floating-point number `significand · 10 ^ exponent`. -/
def scaled (negative : Bool) (significand : Nat) (exponent : Int) : Option Number :=
  ((Number.Binary64.ofNat significand).bind (·.scaleTen exponent)).map (signed negative)

/-- A whole number within 64 bits stays one. Minus zero and negative numbers below `-2 ^ 63`
are floating-point numbers. -/
def ofSignificand (negative : Bool) (significand : Nat) : Option Number :=
  if !negative then some (.natural significand.toUInt64)
  else if 0 < significand ∧ significand ≤ 0x8000000000000000 then
    some (.negative (Int64.ofInt (-Int.ofNat significand)))
  else scaled true significand 0

/-- The number, or the count of characters after which it is found to be out of range. -/
def read (n : Numeral) : Except Nat Number :=
  let (significand, power) := significandOf n.whole (n.places.getD [])
  let within (value : Option Number) : Except Nat Number := value.elim (.error n.chars) .ok
  match n.exponent with
  | none =>
    if n.places.isNone && power == 0 then within (ofSignificand n.negative significand)
    else within (scaled n.negative significand power)
  | some e =>
    match overflowAt 0 0 e.digits with
    | some taken =>
      if significand ≠ 0 ∧ !e.negative then .error (n.leadChars + taken)
      else .ok (.real (.zero n.negative))
    | none =>
      let value : Int := Int.ofNat (e.digits.foldl (fun v d => v * 10 + digitValue d) 0)
      within (scaled n.negative significand (if e.negative then power - value else power + value))

end Numeral

/-- The part after an `e`. The offset is that of the `e`. -/
def scanExponent (offset : Nat) (text : List Char) : Except Fault Exponent :=
  let (sign, lead, rest) : Bool × Nat × List Char :=
    match text with
    | '+' :: rest => (false, 2, rest)
    | '-' :: rest => (true, 2, rest)
    | _ => (false, 1, text)
  let digits := (spanDigits rest).1
  if digits.isEmpty then
    .error (if rest.isEmpty then ⟨.endInValue, offset + lead⟩
      else ⟨.invalidNumber, offset + lead + 1⟩)
  else .ok ⟨sign, lead, digits⟩

/-- The part after the integer digits, from the given offset on. -/
def scanFraction (negative : Bool) (whole : List Char) (offset : Nat) (text : List Char) :
    Except Fault Numeral := do
  let (places, offset, rest) ← show Except Fault (Option (List Char) × Nat × List Char) from
    match text with
    | '.' :: rest =>
      let (digits, after) := spanDigits rest
      if digits.isEmpty then
        .error (if after.isEmpty then ⟨.endInValue, offset + 1⟩ else ⟨.invalidNumber, offset + 2⟩)
      else .ok (some digits, offset + 1 + digits.length, after)
    | _ => .ok (none, offset, text)
  match rest with
  | 'e' :: rest | 'E' :: rest => return ⟨negative, whole, places, some (← scanExponent offset rest)⟩
  | _ => return ⟨negative, whole, places, none⟩

/-- A number after its sign. A leading zero stands alone. -/
def scanNumeral (negative : Bool) (offset : Nat) (text : List Char) : Except Fault Numeral :=
  match text with
  | [] => .error ⟨.endInValue, offset⟩
  | '0' :: rest =>
    if rest.head?.any Char.isDigit then .error ⟨.invalidNumber, offset + 2⟩
    else scanFraction negative ['0'] (offset + 1) rest
  | c :: _ =>
    if c.isDigit then
      let (whole, rest) := spanDigits text
      scanFraction negative whole (offset + whole.length) rest
    else .error ⟨.invalidNumber, offset + 1⟩

def scanNumber (offset : Nat) (text : List Char) : Except Fault (Scanned Number) := do
  let numeral ← match text with
    | '-' :: rest => scanNumeral true (offset + 1) rest
    | _ => scanNumeral false offset text
  match numeral.read with
  | .ok n => return ⟨n, numeral.chars, numeral.chars⟩
  | .error taken => throw ⟨.numberOutOfRange, offset + taken⟩

def hexValue? (c : Char) : Option Nat :=
  if c.isDigit then some (c.toNat - '0'.toNat)
  else if 'a' ≤ c ∧ c ≤ 'f' then some (c.toNat - 'a'.toNat + 10)
  else if 'A' ≤ c ∧ c ≤ 'F' then some (c.toNat - 'A'.toNat + 10)
  else none

def scanHex (offset : Nat) (text : List Char) : Except Fault (Nat × List Char) :=
  match text with
  | a :: b :: c :: d :: rest =>
    match hexValue? a, hexValue? b, hexValue? c, hexValue? d with
    | some a, some b, some c, some d => .ok (((a * 16 + b) * 16 + c) * 16 + d, rest)
    | _, _, _, _ => .error ⟨.invalidEscape, offset + 4⟩
  | short =>
    let left := Text.byteCount short
    .error (if left < 4 then ⟨.endInString, offset + left⟩ else ⟨.invalidEscape, offset + 4⟩)

/-- The character of a hex escape, the characters it takes after its `u`, all of them ASCII.
A high surrogate needs a low one in an escape of its own. -/
def scanUnicode (offset : Nat) (text : List Char) : Except Fault (Char × Nat) := do
  let (high, rest) ← scanHex offset text
  if 0xDC00 ≤ high ∧ high ≤ 0xDFFF then throw ⟨.loneSurrogate, offset + 4⟩
  if high < 0xD800 ∨ 0xDBFF < high then return (Char.ofNat high, 4)
  match rest with
  | [] => throw ⟨.endInString, offset + 4⟩
  | '\\' :: [] => throw ⟨.endInString, offset + 5⟩
  | '\\' :: 'u' :: rest =>
    let (low, _) ← scanHex (offset + 6) rest
    if low < 0xDC00 ∨ 0xDFFF < low then throw ⟨.loneSurrogate, offset + 10⟩
    return (Char.ofNat (0x10000 + (high - 0xD800) * 0x400 + (low - 0xDC00)), 10)
  | '\\' :: _ => throw ⟨.endOfHexEscape, offset + 6⟩
  | _ => throw ⟨.endOfHexEscape, offset + 5⟩

def simpleEscape? : Char → Option Char
  | '"' => some '"'
  | '\\' => some '\\'
  | '/' => some '/'
  | 'b' => some (Char.ofNat 8)
  | 'f' => some (Char.ofNat 12)
  | 'n' => some '\n'
  | 'r' => some '\r'
  | 't' => some '\t'
  | _ => none

/-- A string after its opening quote; `read` is newest first. -/
def scanString (read : List Char) (chars bytes offset : Nat) (text : List Char) :
    Except Fault (Scanned String) :=
  match text with
  | [] => .error ⟨.endInString, offset + bytes⟩
  | c :: rest =>
    if c = '"' then .ok ⟨String.ofList read.reverse, chars + 1, bytes + 1⟩
    else if c.toNat < 0x20 then .error ⟨.controlCharacter, offset + bytes + 1⟩
    else if c ≠ '\\' then scanString (c :: read) (chars + 1) (bytes + c.utf8Size) offset rest
    else match rest with
      | [] => .error ⟨.endInString, offset + bytes + 1⟩
      | e :: rest =>
        if e = 'u' then
          match scanUnicode (offset + bytes + 2) rest with
          | .error fault => .error fault
          | .ok (c, n) =>
            scanString (c :: read) (chars + 2 + n) (bytes + 2 + n) offset (rest.drop n)
        else match simpleEscape? e with
          | some c => scanString (c :: read) (chars + 2) (bytes + 2) offset rest
          | none => .error ⟨.invalidEscape, offset + bytes + 2⟩
termination_by text.length
decreasing_by all_goals (simp only [List.length_cons, List.length_drop]; omega)

end ApiBlueprint.Json
