import ApiBlueprint.Json.Record

/-! What a value must look like, and the first reason why it does not. Nothing is read out of the
value: a schema stands for records that are only taken or refused as a whole. -/
namespace ApiBlueprint.Json

/-- When a field may be missing: never, in an object, or in an object and at the end of an
array. -/
inductive Presence where
  | required
  | optional
  | defaulted
  deriving DecidableEq, Repr

structure Key where
  name : String
  presence : Presence
  deriving DecidableEq, Repr

inductive Scalar where
  | boolean
  | string
  | uri
  | unsigned32
  | signed32
  | real32
  deriving DecidableEq, Repr

def Scalar.check (s : Scalar) (v : Value) : Except Mismatch Unit :=
  match s with
  | boolean => (Reader.bool v).map fun _ => ()
  | string => (Reader.string v).map fun _ => ()
  | uri => (Reader.uri v).map fun _ => ()
  | unsigned32 => (Reader.unsigned32 v).map fun _ => ()
  | signed32 => (Reader.signed32 v).map fun _ => ()
  | real32 => Reader.real32 v

/-- The forms of values. `optional` takes `null` as well, and `flagOr` also a boolean. A `merged`
record holds the fields of its parts beside its own and has no array form. A `tag` is a name or
its place among the names. -/
inductive Schema where
  | anything
  | scalar (s : Scalar)
  | optional (s : Schema)
  | flagOr (s : Schema)
  | list (s : Schema)
  | pair (s : Schema)
  | table (s : Schema)
  | uriTable (s : Schema)
  | variant (names : List String)
  | tag (name : String) (index : Nat)
  | oneOf (name : String) (options : List Schema)
  | record (name : String) (fields : List (Key × Schema))
  | merged (name : String) (fields : List (Key × Schema)) (parts : List Schema)

namespace Schema

abbrev bool : Schema := .scalar .boolean
abbrev string : Schema := .scalar .string
abbrev uri : Schema := .scalar .uri
abbrev unsigned32 : Schema := .scalar .unsigned32
abbrev signed32 : Schema := .scalar .signed32
abbrev real32 : Schema := .scalar .real32

def field (name : String) (s : Schema) : Key × Schema := (⟨name, .required⟩, s)

def field? (name : String) (s : Schema) : Key × Schema := (⟨name, .optional⟩, .optional s)

/-- A field with a default, so that an array may end before it. -/
def fieldD (name : String) (s : Schema) : Key × Schema := (⟨name, .defaulted⟩, s)

def flags (names : List String) : List (Key × Schema) := names.map fun name => field? name bool

/-- The mismatch of the first member in key order that has one. -/
def report (members : Members) (misfits : List (String × Mismatch)) : Except Mismatch Unit :=
  match members.findSome? fun m => misfits.lookup m.1 with
  | some e => .error e
  | none => .ok ()

/-- The first required field that is not there, in field order. -/
def complete (fields : List (Key × Schema)) (members : Members) : Except Mismatch Unit :=
  match fields.find? fun f => f.1.presence == .required && !members.contains f.1.name with
  | some f => .error (.missingField f.1.name)
  | none => .ok ()

def others (fields : List (Key × Schema)) (members : Members) : Members :=
  members.filter fun m => fields.all fun f => f.1.name ≠ m.1

mutual

/-- Compare a value with a schema. `inPart` tells whether it stands in a part of a merged record,
where an array that is too long is reported by the count it should have. -/
def check (inPart : Bool) : Schema → Value → Except Mismatch Unit
  | .anything, _ => .ok ()
  | .scalar s, v => s.check v
  | .optional s, v =>
    match v with
    | .null => .ok ()
    | v => s.check inPart v
  | .flagOr s, v =>
    match v with
    | .null | .bool _ => .ok ()
    | v => s.check false v
  | .list s, v =>
    match v with
    | .array items => items.forM fun item => s.check inPart item
    | v => .error (.wrongType v .sequence)
  | .pair s, v =>
    match v with
    | .array [a, b] => do
      s.check inPart a
      s.check inPart b
    | v => .error (.wrongType v .pair)
  | .table s, v =>
    match v with
    | .object members => members.forM fun m => s.check inPart m.2
    | v => .error (.wrongType v .table)
  | .uriTable s, v =>
    match v with
    | .object members => members.forM fun m => do
      Scalar.uri.check (.string m.1)
      s.check inPart m.2
    | v => .error (.wrongType v .uriTable)
  | .variant names, v => Reader.variant (names.map fun name => (name, ())) v
  | .tag name index, v =>
    match v with
    | .string s => if s = name then .ok () else .error (.unknownVariant s [name])
    | .number (.natural n) =>
      if n.toNat = index then .ok () else .error (.wrongType v .string)
    | v => .error (.wrongType v .string)
  | .oneOf name options, v => if admits options v then .ok () else .error (.noAlternative name)
  | .record name fields, v =>
    match v with
    | .object members => do
      report members (misfits inPart fields members)
      complete fields members
    | .array items => checkItems inPart name (fields.length, items.length) fields 0 items
    | v => .error (.wrongType v (.record name))
  | .merged name fields parts, v =>
    match v with
    | .object members => do
      report members (misfits inPart fields members)
      complete fields members
      checkParts parts (.object (others fields members))
    | v => .error (.wrongType v (.record name))

def misfits (inPart : Bool) : List (Key × Schema) → Members → List (String × Mismatch)
  | [], _ => []
  | (key, s) :: rest, members =>
    match members.get? key.name with
    | none => misfits inPart rest members
    | some v =>
      match s.check inPart v with
      | .error e => (key.name, e) :: misfits inPart rest members
      | .ok _ => misfits inPart rest members

/-- Fields by their place in an array; `sizes` are the number of fields and that of items. -/
def checkItems (inPart : Bool) (name : String) (sizes : Nat × Nat) :
    List (Key × Schema) → Nat → List Value → Except Mismatch Unit
  | [], _, [] => .ok ()
  | [], _, _ :: _ => .error (if inPart then .surplus sizes.2 sizes.1 else .tooMany sizes.2)
  | (key, _) :: rest, place, [] =>
    if key.presence = .defaulted then checkItems inPart name sizes rest (place + 1) []
    else .error (.tooFew place name sizes.1)
  | (_, s) :: rest, place, v :: items => do
    s.check inPart v
    checkItems inPart name sizes rest (place + 1) items

def admits : List Schema → Value → Bool
  | [], _ => false
  | s :: rest, v => (s.check true v).isOk || admits rest v

def checkParts : List Schema → Value → Except Mismatch Unit
  | [], _ => .ok ()
  | s :: rest, v => do
    s.check true v
    checkParts rest v

end

def read (s : Schema) : Reader Unit := s.check false

end Schema
end ApiBlueprint.Json
