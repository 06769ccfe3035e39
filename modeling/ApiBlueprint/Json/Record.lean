import ApiBlueprint.Json.Printer
import ApiBlueprint.Text.Quoted
import ApiBlueprint.Uri

/-! Reading values as records, variants and scalars. A record stands in an object under its
field names or in an array in field order. In an object the fields that are there are read in
the byte order of their names, before any missing field is noticed. -/
namespace ApiBlueprint.Json

/-- What a reader asked for. -/
inductive Shape where
  | record (name : String)
  | boolean
  | string
  | sequence
  | unsigned32
  | unsigned64
  | signed32
  | variant
  | unit
  | uri
  | real32
  | table
  | uriTable
  | pair
  deriving DecidableEq, Repr

def Shape.text : Shape → String
  | record name => "struct " ++ name
  | boolean => "a boolean"
  | string => "a string"
  | sequence => "a sequence"
  | unsigned32 => "u32"
  | unsigned64 => "usize"
  | signed32 => "i32"
  | variant => "string or map"
  | unit => "unit"
  | uri => "a string representing an URL"
  | real32 => "f32"
  | table => "a map"
  | uriTable => "map"
  | pair => "an array of length 2"

/-- Why a value cannot be read. -/
inductive Mismatch where
  | wrongType (found : Value) (expected : Shape)
  | outOfRange (found : Int) (expected : Shape)
  | tooFew (length : Nat) (name : String) (arity : Nat)
  | tooMany (length : Nat)
  | surplus (length arity : Nat)
  | missingField (name : String)
  | unknownVariant (found : String) (options : List String)
  | notSingleKey
  | noAlternative (name : String)
  | badUri (fault : Uri.Fault) (text : String)
  deriving Repr

def Value.describe : Value → String
  | .null => "null"
  | .bool b => "boolean `" ++ (if b then "true" else "false") ++ "`"
  | .number (.real x) => "floating point `" ++ realText x ++ "`"
  | .number n => "integer `" ++ n.text ++ "`"
  | .string s => "string " ++ Text.quoted s
  | .array _ => "sequence"
  | .object _ => "map"

def backquoted (s : String) : String := "`" ++ s ++ "`"

def choice (names : List String) : String :=
  match names with
  | [a, b] => backquoted a ++ " or " ++ backquoted b
  | [a] => backquoted a
  | names => "one of " ++ ", ".intercalate (names.map backquoted)

def elements (n : Nat) : String := toString n ++ (if n = 1 then " element" else " elements")

def Mismatch.message : Mismatch → String
  | wrongType found expected => "invalid type: " ++ found.describe ++ ", expected " ++ expected.text
  | outOfRange found expected =>
    "invalid value: integer " ++ backquoted (toString found) ++ ", expected " ++ expected.text
  | tooFew length name arity =>
    "invalid length " ++ toString length ++ ", expected struct " ++ name ++ " with " ++
      elements arity
  | tooMany length => "invalid length " ++ toString length ++ ", expected fewer elements in array"
  | surplus length arity =>
    "invalid length " ++ toString length ++ ", expected " ++ elements arity ++ " in sequence"
  | missingField name => "missing field " ++ backquoted name
  | unknownVariant found options =>
    "unknown variant " ++ backquoted found ++ ", expected " ++ choice options
  | notSingleKey => "invalid value: map, expected map with a single key"
  | noAlternative name => "data did not match any variant of untagged enum " ++ name
  | badUri fault text => fault.message ++ ": " ++ Text.quoted text

abbrev Reader (α : Type) := Value → Except Mismatch α

namespace Reader

def bool : Reader Bool
  | .bool b => .ok b
  | v => .error (.wrongType v .boolean)

def string : Reader String
  | .string s => .ok s
  | v => .error (.wrongType v .string)

def unsigned32 : Reader UInt32
  | .number (.natural n) =>
    if n.toNat < 0x100000000 then .ok n.toUInt32 else .error (.outOfRange n.toNat .unsigned32)
  | .number (.negative n) => .error (.outOfRange n.toInt .unsigned32)
  | v => .error (.wrongType v .unsigned32)

def unsigned64 : Reader UInt64
  | .number (.natural n) => .ok n
  | .number (.negative n) => .error (.outOfRange n.toInt .unsigned64)
  | v => .error (.wrongType v .unsigned64)

def signed32 : Reader Int32
  | .number (.natural n) =>
    if n.toNat < 0x80000000 then .ok (Int32.ofNat n.toNat)
    else .error (.outOfRange n.toNat .signed32)
  | .number (.negative n) =>
    if -0x80000000 ≤ n.toInt then .ok n.toInt32 else .error (.outOfRange n.toInt .signed32)
  | v => .error (.wrongType v .signed32)

def real32 : Reader Unit
  | .number _ => .ok ()
  | v => .error (.wrongType v .real32)

/-- An absolute URI, which is passed on in its normal form. -/
def uri : Reader String
  | .string s => (Uri.normalize s).mapError fun fault => .badUri fault s
  | v => .error (.wrongType v .uri)

def list {α : Type} (read : Reader α) : Reader (List α)
  | .array items => items.mapM read
  | v => .error (.wrongType v .sequence)

/-- `null` stands for nothing. -/
def optional {α : Type} (read : Reader α) : Reader (Option α)
  | .null => .ok none
  | v => (read v).map some

def unit : Reader Unit
  | .null => .ok ()
  | v => .error (.wrongType v .unit)

/-- A name out of a list, bare or as the only key of an object whose value is `null`. -/
def variant {α : Type} (options : List (String × α)) : Reader α
  | .string s => find s
  | .object [(key, payload)] => do
    let a ← find key
    unit payload
    return a
  | .object _ => .error .notSingleKey
  | v => .error (.wrongType v .variant)
where
  find (s : String) : Except Mismatch α :=
    match options.lookup s with
    | some a => .ok a
    | none => .error (.unknownVariant s (options.map (·.1)))

end Reader

/-- A field of an object that may be missing. -/
def field? {α : Type} (members : Members) (name : String) (read : Reader α) :
    Except Mismatch (Option α) :=
  match members.get? name with
  | none => .ok none
  | some v => (read v).map some

def required {α : Type} (name : String) : Option α → Except Mismatch α
  | some a => .ok a
  | none => .error (.missingField name)

def item {α : Type} (record : String) (arity : Nat) (items : List Value) (place : Nat)
    (read : Reader α) : Except Mismatch α :=
  match items[place]? with
  | some v => read v
  | none => .error (.tooFew place record arity)

/-- A field by its place in an array that may end before it. -/
def item? {α : Type} (items : List Value) (place : Nat) (read : Reader α) :
    Except Mismatch (Option α) :=
  match items[place]? with
  | some v => (read v).map some
  | none => .ok none

def noMoreThan (arity : Nat) (items : List Value) : Except Mismatch Unit :=
  if arity < items.length then .error (.tooMany items.length) else .ok ()

end ApiBlueprint.Json
