import ApiBlueprint.Source.Position

/-! Diagnostics: what a document is told about, where, and how severely. -/
namespace ApiBlueprint
open Json Source

inductive Severity where
  | error
  | warning
  deriving DecidableEq, Repr

namespace Severity

/-- A warning is marked as one by its first class; everything else is an error. -/
def ofClasses : List String → Severity
  | "warning" :: _ => warning
  | _ => error

def text : Severity → String
  | error => "error"
  | warning => "warning"

def number : Severity → UInt32
  | error => 1
  | warning => 2

def toValue (severity : Severity) : Value := .string severity.text

def ofValue : Reader Severity := Reader.variant [("error", error), ("warning", warning)]

end Severity

/-- A code is passed on as it came. -/
inductive Code where
  | number (n : Int64)
  | text (s : String)
  deriving DecidableEq, Repr

namespace Code

def display : Code → String
  | number n => toString n.toInt
  | text s => s

def toValue : Code → Value
  | number n => .ofInt64 n
  | text s => .string s

/-- The code a value holds, if it is an integer of 64 bits or a string. -/
def ofScalar? (v : Value) : Option Code :=
  (v.int64?.map number).or (v.string?.map text)

def ofValue : Reader Code := fun v =>
  match ofScalar? v with
  | some code => .ok code
  | none => .error (.noAlternative "DiagnosticCode")

end Code

structure Diagnostic where
  range : Range
  severity : Severity
  code : Option Code
  source : Option String
  message : String
  deriving DecidableEq, Repr

namespace Diagnostic

/-- The name under which diagnostics are reported. -/
def origin : String := "drafter"

/-- The parts of a diagnostic, given how severities and codes are written. -/
def members (severity : Severity → Value) (code : Code → Value) (d : Diagnostic) :
    List (String × Option Value) :=
  [("range", some d.range.toValue), ("severity", some (severity d.severity)),
    ("code", d.code.map code), ("source", d.source.map Value.string),
    ("message", some (.string d.message))]

/-- No part is written twice, in whatever form. -/
theorem nodup_members (severity : Severity → Value) (code : Code → Value) (d : Diagnostic) :
    ((d.members severity code).map Prod.fst).Nodup := by
  simp [members]

def toValue (d : Diagnostic) : Value := .sparse (d.members Severity.toValue Code.toValue)

def ofValue : Reader Diagnostic
  | .object members => do
    let code ← field? members "code" (Reader.optional Code.ofValue)
    let message ← field? members "message" Reader.string
    let range ← field? members "range" Range.ofValue
    let severity ← field? members "severity" Severity.ofValue
    let source ← field? members "source" (Reader.optional Reader.string)
    return ⟨← required "range" range, ← required "severity" severity, code.join, source.join,
      ← required "message" message⟩
  | .array items => do
    let range ← item "Diagnostic" 5 items 0 Range.ofValue
    let severity ← item "Diagnostic" 5 items 1 Severity.ofValue
    let code ← item "Diagnostic" 5 items 2 (Reader.optional Code.ofValue)
    let source ← item "Diagnostic" 5 items 3 (Reader.optional Reader.string)
    let message ← item "Diagnostic" 5 items 4 Reader.string
    noMoreThan 5 items
    return ⟨range, severity, code, source, message⟩
  | v => .error (.wrongType v (.record "Diagnostic"))

end Diagnostic
end ApiBlueprint
