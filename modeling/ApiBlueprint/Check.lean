import ApiBlueprint.Analysis

/-! Checking one file: the report on its analysis and the outcome of the check. -/
namespace ApiBlueprint
open Json

/-- What a program prints and the code it exits with. `stderr` is the program's own message; the
dated lines of its log, which go there too, are left out. -/
structure Outcome where
  exit : Nat
  stdout : String := ""
  stderr : String := ""
  deriving DecidableEq, Repr

structure CheckOptions where
  file : String
  parser : Option String := none
  json : Bool := false
  outline : Bool := false
  deriving DecidableEq, Repr

namespace Check

/-- Defaults, but for the parser if one is named. -/
def settings (o : CheckOptions) : Settings :=
  let d : Settings := {}
  { d with parser := { d.parser with command := o.parser.getD d.parser.command } }

/-- `file:line:column: severity[code]: message`, counted from one in 32 bits. -/
def diagnosticLine (file : String) (d : Diagnostic) : String :=
  let start := d.range.start
  let code := (d.code.map fun c => "[" ++ c.display ++ "]").getD ""
  file ++ ":" ++ toString (start.line + 1) ++ ":" ++ toString (start.character + 1) ++ ": " ++
    d.severity.text ++ code ++ ": " ++ d.message

/-- What stands in a container is indented. -/
def symbolLine (s : Symbol) : String :=
  let start := s.range.start
  (if s.containerName.isSome then "  " else "") ++ s.name ++ " (" ++
    toString (start.line + 1) ++ ":" ++ toString (start.character + 1) ++ ")"

def textReport (o : CheckOptions) (a : Analysis) : List String :=
  a.diagnostics.map (diagnosticLine o.file) ++ if o.outline then a.symbols.map symbolLine else []

/-- The report for programs. The outline is left out unless asked for. -/
def jsonReport (o : CheckOptions) (a : Analysis) : Value :=
  .sparse [("file", some (.string o.file)),
    ("diagnostics", some (.array (a.diagnostics.map Diagnostic.toValue))),
    ("symbols", if o.outline then some (.array (a.symbols.map Symbol.toValue)) else none)]

def report (o : CheckOptions) (a : Analysis) : String :=
  let lines := if o.json then [(jsonReport o a).pretty] else textReport o a
  String.join (lines.map (· ++ "\n"))

def errorCount (ds : List Diagnostic) : Nat := ds.countP fun d => d.severity == .error

def outcome (o : CheckOptions) (a : Analysis) : Outcome :=
  let errors := errorCount a.diagnostics
  if errors = 0 then ⟨0, report o a, ""⟩
  else ⟨1, report o a, "Error: " ++ toString errors ++ " error(s) in " ++ o.file ++ "\n"⟩

def unreadable (file reason : String) : Outcome :=
  ⟨1, "", "Error: Failed to read " ++ file ++ "\n\nCaused by:\n    " ++ reason ++ "\n"⟩

def run (programs : Programs) (o : CheckOptions) (bytes : Except String (List UInt8)) : Outcome :=
  match bytes with
  | .error reason => unreadable o.file reason
  | .ok bytes =>
    match Text.Utf8.decode? bytes with
    | none => unreadable o.file "stream did not contain valid UTF-8"
    | some text => outcome o (analyzeWith programs (settings o) text)

end Check
end ApiBlueprint
