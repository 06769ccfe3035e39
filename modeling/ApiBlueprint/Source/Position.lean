import ApiBlueprint.Json.Record

/-! Places in a document as editors give them: lines and columns from zero, columns in UTF-16
code units. -/
namespace ApiBlueprint.Source
open Json

structure Position where
  line : UInt32
  character : UInt32
  deriving DecidableEq, Repr

/-- From `start` up to but not including `stop`. -/
structure Range where
  start : Position
  stop : Position
  deriving DecidableEq, Repr

namespace Position

/-- The start of a document. -/
def origin : Position := ⟨0, 0⟩

/-- Document order: by line, then by character. -/
def order (a b : Position) : Ordering :=
  (compare a.line b.line).then (compare a.character b.character)

def members (p : Position) : List (String × Value) :=
  [("line", .ofNat32 p.line), ("character", .ofNat32 p.character)]

theorem nodup_members (p : Position) : (p.members.map Prod.fst).Nodup := by simp [members]

def toValue (p : Position) : Value := .record p.members

def ofValue : Reader Position
  | .object members => do
    let character ← field? members "character" Reader.unsigned32
    let line ← field? members "line" Reader.unsigned32
    return ⟨← required "line" line, ← required "character" character⟩
  | .array items => do
    let line ← item "Position" 2 items 0 Reader.unsigned32
    let character ← item "Position" 2 items 1 Reader.unsigned32
    noMoreThan 2 items
    return ⟨line, character⟩
  | v => .error (.wrongType v (.record "Position"))

end Position

namespace Range

/-- No width at the start of a document. -/
def origin : Range := ⟨.origin, .origin⟩

def isEmpty (range : Range) : Bool := range.start == range.stop

def members (range : Range) : List (String × Value) :=
  [("start", range.start.toValue), ("end", range.stop.toValue)]

theorem nodup_members (range : Range) : (range.members.map Prod.fst).Nodup := by simp [members]

def toValue (range : Range) : Value := .record range.members

def ofValue : Reader Range
  | .object members => do
    let stop ← field? members "end" Position.ofValue
    let start ← field? members "start" Position.ofValue
    return ⟨← required "start" start, ← required "end" stop⟩
  | .array items => do
    let start ← item "Range" 2 items 0 Position.ofValue
    let stop ← item "Range" 2 items 1 Position.ofValue
    noMoreThan 2 items
    return ⟨start, stop⟩
  | v => .error (.wrongType v (.record "Range"))

end Range
end ApiBlueprint.Source
