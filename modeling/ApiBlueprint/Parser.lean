import ApiBlueprint.Element.Refract
import ApiBlueprint.Settings
import ApiBlueprint.Text.Blank
import ApiBlueprint.Text.Utf8

/-! Parsing is done by another program that reads the document and writes API Elements. What
such a run can end in is data here, so that all outcomes can be reasoned about. -/
namespace ApiBlueprint

/-- What a parser is asked for. -/
structure ParseOptions where
  exportSourcemap : Bool
  json : Bool
  requireBlueprintName : Bool
  outputType : String
  deriving DecidableEq, Repr

def Settings.parseOptions (s : Settings) : ParseOptions :=
  ⟨s.exportSourcemap, s.json, s.requireBlueprintName, s.outputType⟩

/-- The only output that is understood. -/
def refract : String := "refract"

/-- Why there is no parse result. -/
inductive ParseError where
  | unsupportedOutputType (outputType : String)
  | spawnFailed (program reason : String)
  | stdinWrite (program reason : String)
  | invalidUtf8Output (program : String)
  | nonZeroExit (program : String) (code : Int) (stderr : String)
  | output (e : Refract.ReadError)
  | rejected (reason : String)
  deriving DecidableEq, Repr

def ParseError.message : ParseError → String
  | unsupportedOutputType t =>
    "Unsupported parser output type '" ++ t ++ "', only 'refract' is understood"
  | spawnFailed program reason => "Failed to spawn parser '" ++ program ++ "': " ++ reason
  | stdinWrite program reason => "Failed to write to parser '" ++ program ++ "' stdin: " ++ reason
  | invalidUtf8Output program => "Parser '" ++ program ++ "' produced invalid UTF-8 output"
  | nonZeroExit program code stderr =>
    "Parser '" ++ program ++ "' exited with status " ++ toString code ++ ": " ++ stderr
  | output e => "Failed to read parser output: " ++ e.message
  | rejected reason => reason

abbrev Parser := String → ParseOptions → Except ParseError ParseResult

/-- How a program ended. -/
inductive ExitStatus where
  | code (n : Int32)
  | signal
  deriving DecidableEq, Repr

namespace ExitStatus

def isSuccess (status : ExitStatus) : Bool := status == .code 0

/-- A program stopped by a signal has no code and counts as `-1`. -/
def number : ExitStatus → Int
  | code n => n.toInt
  | signal => -1

end ExitStatus

/-- What became of starting a program, writing to it and waiting for it. -/
inductive Run where
  | notStarted (reason : String)
  | notWritten (reason : String)
  | finished (stdout : List UInt8) (status : ExitStatus) (stderr : List UInt8)
  deriving DecidableEq, Repr

/-- The world as far as programs go: a run for each program, arguments and input. -/
abbrev Programs := String → List String → String → Run

/-- A parser program, with its arguments if they are fixed. -/
structure Command where
  program : String
  args : Option (List String) := none
  deriving DecidableEq, Repr

namespace Command

def ofSettings (s : ParserSettings) : Command := ⟨s.command, s.args⟩

def arguments (c : Command) (options : ParseOptions) : List String :=
  c.args.getD (["--format", "json"] ++ if options.exportSourcemap then ["--sourcemap"] else [])

/-- Readable output wins, whatever the status. The status is reported when there is none. -/
def ofRun (program : String) : Run → Except ParseError ParseResult
  | .notStarted reason => .error (.spawnFailed program reason)
  | .notWritten reason => .error (.stdinWrite program reason)
  | .finished stdout status stderr =>
    match Text.Utf8.decode? stdout with
    | none => .error (.invalidUtf8Output program)
    | some text =>
      match Refract.ofText text with
      | .ok result => .ok result
      | .error e =>
        if status.isSuccess then .error (.output e)
        else .error (.nonZeroExit program status.number
          (String.ofList (Text.trim (Text.Utf8.decodeLossy stderr))))

/-- The command as a parser. No program is started for an output that is not understood. -/
def parser (programs : Programs) (c : Command) : Parser := fun text options =>
  if options.outputType ≠ refract then .error (.unsupportedOutputType options.outputType)
  else ofRun c.program (programs c.program (c.arguments options) text)

end Command
end ApiBlueprint
