import ApiBlueprint.Parser
import ApiBlueprint.Source.Reference
import ApiBlueprint.Symbol

/-! One pass over a document: parse it once, report its annotations and keep what the outline
needs. A parser that fails is reported, never passed over in silence. -/
namespace ApiBlueprint
open Source Text

def Note.diagnostic (lines : Lines) (note : Note) : Diagnostic where
  range := (resolveOrStart lines note.sourceMap).range
  severity := .ofClasses note.classes
  code := note.code
  source := some Diagnostic.origin
  message := note.message

/-- The one diagnostic of a failed parse, at the start of the document. -/
def ParseError.diagnostic (e : ParseError) : Diagnostic where
  range := .origin
  severity := .error
  code := none
  source := some Diagnostic.origin
  message := e.message

def Located.symbol (lines : Lines) (kind : SymbolKind) (container : Option String)
    (title : Located) : Symbol where
  name := title.content
  kind := kind
  range := (resolveOrStart lines title.sourceMap).range
  containerName := container

namespace ParseResult

/-- One diagnostic per annotation, in document order. -/
def diagnostics (result : ParseResult) (lines : Lines) : List Diagnostic :=
  result.annotations.map (·.diagnostic lines)

/-- The API's title, then the titled resources of its groups. -/
def symbols (result : ParseResult) (lines : Lines) : List Symbol :=
  match result.api? with
  | none => []
  | some api =>
    let name := api.title.map Located.content
    let titles := (api.groups.flatMap Category.resources).filterMap Resource.title
    (api.title.map (·.symbol lines .package none)).toList ++
      titles.map (·.symbol lines .property name)

end ParseResult

/-- What a pass leaves behind. The lines are those of the text that was parsed. -/
structure Analysis where
  diagnostics : List Diagnostic
  tree : Option ParseResult
  lines : Lines
  settings : Settings
  deriving Repr

namespace Analysis

/-- The outline. Without source maps there is nowhere to go, so it is empty. -/
def symbols (a : Analysis) : List Symbol :=
  if a.settings.exportSourcemap then (a.tree.map (·.symbols a.lines)).getD [] else []

end Analysis

/-- Diagnostics of a text and, unless the parser failed, its tree. -/
def parseWithDiagnostics (text : String) (lines : Lines) (options : ParseOptions)
    (parser : Parser) : List Diagnostic × Option ParseResult :=
  match parser text options with
  | .ok tree => (tree.diagnostics lines, some tree)
  | .error e => ([e.diagnostic], none)

def analyze (text : String) (settings : Settings) (parser : Parser) : Analysis :=
  let lines := Lines.ofText text
  let (diagnostics, tree) := parseWithDiagnostics text lines settings.parseOptions parser
  ⟨diagnostics, tree, lines, settings⟩

/-- The analysis with the parser that the settings name. -/
def analyzeWith (programs : Programs) (settings : Settings) (text : String) : Analysis :=
  analyze text settings ((Command.ofSettings settings.parser).parser programs)

end ApiBlueprint
