import ApiBlueprint.Json.Record

/-! Settings of an analysis. They come from editors as JSON; what is not given keeps its
default. -/
namespace ApiBlueprint
open Json

/-- How to run the parser. `args` replaces the arguments the options would give. -/
structure ParserSettings where
  command : String := "drafter"
  args : Option (List String) := none
  deriving DecidableEq, Repr

structure Settings where
  exportSourcemap : Bool := true
  json : Bool := false
  requireBlueprintName : Bool := false
  outputType : String := "refract"
  parser : ParserSettings := {}
  deriving DecidableEq, Repr

namespace ParserSettings

def members (s : ParserSettings) : List (String × Option Value) :=
  [("command", some (.string s.command)),
    ("args", s.args.map fun args => .array (args.map Value.string))]

theorem nodup_members (s : ParserSettings) : (s.members.map Prod.fst).Nodup := by simp [members]

def toValue (s : ParserSettings) : Value := .sparse s.members

private def build (command : Option String) (args : Option (Option (List String))) :
    ParserSettings :=
  let d : ParserSettings := {}
  ⟨command.getD d.command, args.getD d.args⟩

def ofValue : Reader ParserSettings
  | .object members => do
    let args ← field? members "args" (Reader.optional (Reader.list Reader.string))
    let command ← field? members "command" Reader.string
    return build command args
  | .array items => do
    let command ← item? items 0 Reader.string
    let args ← item? items 1 (Reader.optional (Reader.list Reader.string))
    noMoreThan 2 items
    return build command args
  | v => .error (.wrongType v (.record "ParserSettings"))

end ParserSettings

namespace Settings

def sectionName : String := "apielements"

def members (s : Settings) : List (String × Value) :=
  [("exportSourcemap", .bool s.exportSourcemap), ("json", .bool s.json),
    ("requireBlueprintName", .bool s.requireBlueprintName), ("type", .string s.outputType),
    ("parser", s.parser.toValue)]

theorem nodup_members (s : Settings) : (s.members.map Prod.fst).Nodup := by simp [members]

def toValue (s : Settings) : Value := .record s.members

private def build (exportSourcemap json requireBlueprintName : Option Bool)
    (outputType : Option String) (parser : Option ParserSettings) : Settings :=
  let d : Settings := {}
  ⟨exportSourcemap.getD d.exportSourcemap, json.getD d.json,
    requireBlueprintName.getD d.requireBlueprintName, outputType.getD d.outputType,
    parser.getD d.parser⟩

/-- One section, without looking for another inside it. -/
def ofSection : Reader Settings
  | .object members => do
    let exportSourcemap ← field? members "exportSourcemap" Reader.bool
    let json ← field? members "json" Reader.bool
    let parser ← field? members "parser" ParserSettings.ofValue
    let requireBlueprintName ← field? members "requireBlueprintName" Reader.bool
    let outputType ← field? members "type" Reader.string
    return build exportSourcemap json requireBlueprintName outputType parser
  | .array items => do
    let exportSourcemap ← item? items 0 Reader.bool
    let json ← item? items 1 Reader.bool
    let requireBlueprintName ← item? items 2 Reader.bool
    let outputType ← item? items 3 Reader.string
    let parser ← item? items 4 ParserSettings.ofValue
    noMoreThan 5 items
    return build exportSourcemap json requireBlueprintName outputType parser
  | v => .error (.wrongType v (.record "Settings"))

/-- Settings given flat or in their section. `null` gives the defaults. -/
def ofValue : Reader Settings := fun v =>
  match (v.get? sectionName).getD v with
  | .null => .ok {}
  | part => ofSection part

end Settings
end ApiBlueprint
