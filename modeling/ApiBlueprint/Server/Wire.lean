import ApiBlueprint.Server

/-! The JSON forms in which the server speaks to an editor. -/
namespace ApiBlueprint
open Json

/-- A number that does not fit 32 bits is sent as its digits. -/
def Code.toWire : Code → Value
  | .number n =>
    if -0x80000000 ≤ n.toInt ∧ n.toInt < 0x80000000 then .ofInt64 n
    else .string (Code.number n).display
  | .text s => .string s

def Severity.toWire (severity : Severity) : Value := .ofNat32 severity.number

def Diagnostic.toWire (d : Diagnostic) : Value := .sparse (d.members Severity.toWire Code.toWire)

/-- An entry of the outline of the document under `uri`. -/
def Symbol.wireMembers (uri : String) (s : Symbol) : List (String × Option Value) :=
  [("name", some (.string s.name)), ("kind", some (.ofNat32 s.kind.number)),
    ("location", some (.record [("uri", .string uri), ("range", s.range.toValue)])),
    ("containerName", s.containerName.map Value.string)]

theorem Symbol.nodup_wireMembers (uri : String) (s : Symbol) :
    ((s.wireMembers uri).map Prod.fst).Nodup := by
  simp [wireMembers]

def Symbol.toWire (uri : String) (s : Symbol) : Value := .sparse (s.wireMembers uri)

/-- Whole texts are exchanged, and outlines are offered. -/
def Server.capabilities : Value :=
  .record [("textDocumentSync", .record [("openClose", .bool true), ("change", .ofNat32 1)]),
    ("documentSymbolProvider", .bool true)]

/-- The answer to the first request. -/
def Server.introduction : Value :=
  .record [("capabilities", capabilities),
    ("serverInfo", .record [("name", .string "blueprint-lsp"), ("version", .string "0.1.0")])]

def LogLevel.number : LogLevel → UInt32
  | warning => 2
  | info => 3

namespace Notice

def method : Notice → String
  | log _ _ => "window/logMessage"
  | publish _ _ _ => "textDocument/publishDiagnostics"

def params : Notice → Value
  | log level text => .record [("type", .ofNat32 level.number), ("message", .string text)]
  | publish uri diagnostics version =>
    .sparse [("uri", some (.string uri)),
      ("diagnostics", some (.array (diagnostics.map Diagnostic.toWire))),
      ("version", version.map Value.ofInt32)]

def toValue (n : Notice) : Value := .record [("method", .string n.method), ("params", n.params)]

end Notice
end ApiBlueprint
