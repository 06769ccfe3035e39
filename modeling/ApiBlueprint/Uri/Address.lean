/-! Numeric addresses of hosts, as they are read and in normal form. -/
namespace ApiBlueprint.Uri

/-- The pieces between separators; there is one more of them than of the separators. -/
def pieces (separator : Char) : List Char → List (List Char)
  | [] => [[]]
  | c :: rest =>
    if c = separator then [] :: pieces separator rest
    else
      match pieces separator rest with
      | [] => [[c]]
      | piece :: more => (c :: piece) :: more

namespace Address

def hexDigit? (c : Char) : Option Nat :=
  if c.isDigit then some (c.toNat - '0'.toNat)
  else if 'a' ≤ c ∧ c ≤ 'f' then some (c.toNat - 'a'.toNat + 10)
  else if 'A' ≤ c ∧ c ≤ 'F' then some (c.toNat - 'A'.toNat + 10)
  else none

/-- The value of digits in a base, if all of them are. -/
def value? (base : Nat) (digits : List Char) : Option Nat :=
  digits.foldlM (fun total c => do
    let digit ← hexDigit? c
    if digit < base then some (total * base + digit) else none) 0

/-- A number, in hexadecimal after `0x` and in octal after `0`. A mark alone is zero. -/
def number? : List Char → Option Nat
  | [] => none
  | '0' :: 'x' :: digits | '0' :: 'X' :: digits => value? 16 digits
  | '0' :: digits => value? 8 digits
  | digits => value? 10 digits

/-- The pieces between dots; one dot at the end does not count. -/
def parts (host : List Char) : List (List Char) :=
  let all := pieces '.' host
  if all.getLast? = some [] ∧ 1 < all.length then all.dropLast else all

/-- Whether a host can be nothing but an address of four bytes. -/
def endsInNumber (host : List Char) : Bool :=
  match (parts host).getLast? with
  | none | some [] => false
  | some last => last.all Char.isDigit || (number? last).isSome

/-- The lowest bytes of a number, highest first. -/
def lowBytes : Nat → Nat → List Nat
  | 0, _ => []
  | count + 1, n => lowBytes count (n / 256) ++ [n % 256]

/-- An address of four bytes as up to four numbers, of which the last fills the bytes left. -/
def short? (host : List Char) : Option (List Nat) := do
  let numbers ← (parts host).mapM number?
  let last ← numbers.getLast?
  let left := 5 - numbers.length
  if numbers.length ≤ 4 && numbers.dropLast.all (· < 256) && last < Nat.pow 256 left then
    some (numbers.dropLast ++ lowBytes left last)
  else none

/-- A byte in decimal, without zeros in front. -/
def byte? (text : List Char) : Option Nat :=
  if text.isEmpty || (text.length != 1 && text.head? == some '0') then none
  else (value? 10 text).filter (· < 256)

/-- Four bytes between dots as two pairs. -/
def dotted? (text : List Char) : Option (List Nat) := do
  match ← (pieces '.' text).mapM byte? with
  | [a, b, c, d] => some [a * 256 + b, c * 256 + d]
  | _ => none

/-- Up to four hexadecimal digits. -/
def group? (text : List Char) : Option Nat :=
  if text.isEmpty || 4 < text.length then none else value? 16 text

/-- The pairs of bytes that a row of groups stands for, if it is one. The last group may be four
dotted bytes if `dotted` allows it. -/
def groups? (dotted : Bool) (text : List Char) : Option (List Nat) :=
  if text.isEmpty then some []
  else do
    let groups := pieces ':' text
    let last ← groups.getLast?
    let front ← groups.dropLast.mapM group?
    match group? last with
    | some pair => some (front ++ [pair])
    | none => if dotted then (dotted? last).map (front ++ ·) else none

/-- Split at the first two colons in a row. -/
def atGap? : List Char → Option (List Char × List Char)
  | ':' :: ':' :: rest => some ([], rest)
  | c :: rest => (atGap? rest).map fun (before, after) => (c :: before, after)
  | [] => none

/-- An address of eight pairs of bytes. One gap may stand for one or more of them. -/
def long? (text : List Char) : Option (List Nat) :=
  match atGap? text with
  | none => (groups? true text).filter (·.length == 8)
  | some (before, after) => do
    let front ← groups? false before
    let back ← groups? true after
    let given := front.length + back.length
    if given < 8 then some (front ++ List.replicate (8 - given) 0 ++ back) else none

/-- The first of the longest runs of zeros, by its place and its length. -/
def zeros (pairs : List Nat) : Nat × Nat :=
  (List.range pairs.length).foldl (fun best place =>
    let length := ((pairs.drop place).takeWhile (· == 0)).length
    if best.2 < length then (place, length) else best) (0, 0)

def shortText (bytes : List Nat) : List Char :=
  ['.'].intercalate (bytes.map (Nat.toDigits 10))

/-- More than one zero in a row is left out, once. -/
def longText (pairs : List Nat) : List Char :=
  let row (pairs : List Nat) := [':'].intercalate (pairs.map (Nat.toDigits 16))
  let (place, length) := zeros pairs
  let text :=
    if 1 < length then row (pairs.take place) ++ "::".toList ++ row (pairs.drop (place + length))
    else row pairs
  '[' :: text ++ [']']

end Address
end ApiBlueprint.Uri
