import ApiBlueprint.Json.Value
import ApiBlueprint.Number.Shortest

/-! Writing JSON, on one line or indented by two blanks. -/
namespace ApiBlueprint.Json

/-- Quotes, backslashes and control characters are escaped; nothing else is. -/
def escapeChar (c : Char) : List Char :=
  match c with
  | '"' => ['\\', '"']
  | '\\' => ['\\', '\\']
  | '\n' => ['\\', 'n']
  | '\r' => ['\\', 'r']
  | '\t' => ['\\', 't']
  | _ =>
    if c.toNat = 8 then ['\\', 'b']
    else if c.toNat = 12 then ['\\', 'f']
    else if c.toNat < 0x20 then
      ['\\', 'u', '0', '0', Nat.digitChar (c.toNat / 16), Nat.digitChar (c.toNat % 16)]
    else [c]

def quote (s : String) : String :=
  "\"" ++ String.ofList (s.toList.flatMap escapeChar) ++ "\""

/-- With the point inside or next to the digits, and at least one place. -/
def positional (digits : List Char) (point : Int) : List Char :=
  if point ≤ 0 then ['0', '.'] ++ List.replicate (-point).toNat '0' ++ digits
  else
    let whole := digits.take point.toNat
    let places := digits.drop point.toNat
    whole ++ List.replicate (point.toNat - whole.length) '0' ++ ['.'] ++
      (if places.isEmpty then ['0'] else places)

/-- With one digit before the point and a signed exponent. -/
def scientific (digits : List Char) (point : Int) : List Char :=
  let places := digits.drop 1
  let exponent := point - 1
  digits.take 1 ++ (if places.isEmpty then [] else '.' :: places) ++
    ['e', if exponent < 0 then '-' else '+'] ++ (toString exponent.natAbs).toList

/-- Magnitudes from `10 ^ -5` up to but not including `10 ^ 16` are written positionally. -/
def realText (x : Number.Binary64) : String :=
  let magnitude :=
    if x.isZero then ['0', '.', '0']
    else
      let (digits, point) := x.shortest.layout
      if -5 < point ∧ point ≤ 16 then positional digits point else scientific digits point
  String.ofList (if x.negative then '-' :: magnitude else magnitude)

def Number.text : Number → String
  | .natural n => toString n.toNat
  | .negative n => toString n.toInt
  | .real x => realText x

namespace Value

mutual

def compact : Value → String
  | .null => "null"
  | .bool b => if b then "true" else "false"
  | .number n => n.text
  | .string s => quote s
  | .array items => "[" ++ ",".intercalate (compactItems items) ++ "]"
  | .object members => "\x7b" ++ ",".intercalate (compactMembers members) ++ "\x7d"

def compactItems : List Value → List String
  | [] => []
  | v :: rest => v.compact :: compactItems rest

def compactMembers : List (String × Value) → List String
  | [] => []
  | (k, v) :: rest => (quote k ++ ":" ++ v.compact) :: compactMembers rest

end

def blanks (n : Nat) : String := String.ofList (List.replicate n ' ')

/-- Entries on lines of their own, one level deeper than the brackets. -/
def block (left right : String) (depth : Nat) (entries : List String) : String :=
  if entries.isEmpty then left ++ right
  else left ++ "\n" ++
    ",\n".intercalate (entries.map fun e => blanks (2 * (depth + 1)) ++ e) ++
    "\n" ++ blanks (2 * depth) ++ right

mutual

/-- One item or member a line. Empty arrays and objects stay on their line. -/
def indented (depth : Nat) : Value → String
  | .array items => block "[" "]" depth (indentedItems (depth + 1) items)
  | .object members => block "\x7b" "\x7d" depth (indentedMembers (depth + 1) members)
  | v => v.compact

def indentedItems (depth : Nat) : List Value → List String
  | [] => []
  | v :: rest => v.indented depth :: indentedItems depth rest

def indentedMembers (depth : Nat) : List (String × Value) → List String
  | [] => []
  | (k, v) :: rest => (quote k ++ ": " ++ v.indented depth) :: indentedMembers depth rest

end

def pretty (v : Value) : String := v.indented 0

end Value
end ApiBlueprint.Json
