import ApiBlueprint.Check

/-! What the arguments of the command mean. -/
namespace ApiBlueprint

inductive Invocation where
  | help
  | version
  | serve
  | check (options : CheckOptions)
  deriving DecidableEq, Repr

/-- Why a reading of the arguments ends early: a wrong use, or a request for help. -/
inductive Halt where
  | misuse
  | help
  deriving DecidableEq, Repr

namespace CommandLine

/-- What a check has been given so far. -/
structure Given where
  file : Option String := none
  parser : Option String := none
  json : Bool := false
  outline : Bool := false
  deriving DecidableEq, Repr

namespace Given

def positional (g : Given) (arg : String) : Except Halt Given :=
  if g.file.isSome ∨ arg = "" then .error .misuse else .ok { g with file := some arg }

def setParser (g : Given) (name : String) : Except Halt Given :=
  if g.parser.isSome then .error .misuse else .ok { g with parser := some name }

def flag (g : Given) (name : String) : Except Halt Given :=
  if name = "json" ∧ !g.json then .ok { g with json := true }
  else if name = "outline" ∧ !g.outline then .ok { g with outline := true }
  else if name = "help" then .error .help
  else .error .misuse

end Given

/-- Whether an argument is read as an option; a lone dash is not. -/
def isOption (arg : String) : Bool := arg.startsWith "-" && arg ≠ "-"

def splitEquals (s : String) : String × Option String :=
  let cs := s.toList
  let name := String.ofList (cs.takeWhile (· ≠ '='))
  (name, match cs.dropWhile (· ≠ '=') with
    | [] => none
    | _ :: value => some (String.ofList value))

/-- Read the arguments of a check from left to right. All are positional after `--`. -/
def checkArgs (g : Given) : List String → Except Halt Given
  | [] => .ok g
  | arg :: rest =>
    if arg = "--" then rest.foldlM Given.positional g
    else if arg.startsWith "--" then
      match splitEquals (String.ofList (arg.toList.drop 2)), rest with
      | ("parser", some name), rest => do checkArgs (← g.setParser name) rest
      | ("parser", none), name :: rest =>
        if isOption name then .error .misuse else do checkArgs (← g.setParser name) rest
      | (name, none), rest => do checkArgs (← g.flag name) rest
      | (_, some _), _ => .error .misuse
    else if arg.startsWith "-h" then .error .help
    else if isOption arg then .error .misuse
    else do checkArgs (← g.positional arg) rest

def Given.options (g : Given) : Except Halt CheckOptions :=
  match g.file with
  | some file => .ok ⟨file, g.parser, g.json, g.outline⟩
  | none => .error .misuse

def serveArgs : List String → Except Halt Unit
  | [] | ["--"] => .ok ()
  | arg :: _ => .error (if arg = "--help" ∨ arg.startsWith "-h" then .help else .misuse)

/-- The arguments as a whole, or nothing if they are misused. -/
def read (args : List String) : Option Invocation :=
  let settle (result : Except Halt Invocation) : Option Invocation :=
    match result with
    | .ok invocation => some invocation
    | .error .help => some .help
    | .error .misuse => none
  match args with
  | [] => none
  | "check" :: rest => settle do return .check (← (← checkArgs {} rest).options)
  | "lsp" :: rest => settle do serveArgs rest; return .serve
  | ["help"] | ["help", "check"] | ["help", "lsp"] | ["help", "help"] => some .help
  | arg :: _ =>
    if arg = "--version" ∨ arg.startsWith "-V" then some .version
    else if arg = "--help" ∨ arg.startsWith "-h" then some .help
    else none

def versionText : String := "blueprint 0.1.0\n"

def usageText : String :=
  "Usage: blueprint <COMMAND>\n\n" ++
  "Commands:\n" ++
  "  lsp    Run the language server over stdio\n" ++
  "  check  Validate an API Blueprint file and report its diagnostics\n\n" ++
  "Usage: blueprint check [--parser <PARSER>] [--json] [--outline] <FILE>\n"

def run (programs : Programs) (fileBytes : String → Except String (List UInt8)) :
    Option Invocation → Outcome
  | none => ⟨2, "", usageText⟩
  | some .help => ⟨0, usageText, ""⟩
  | some .version => ⟨0, versionText, ""⟩
  | some .serve => ⟨0, "", ""⟩
  | some (.check options) => Check.run programs options (fileBytes options.file)

end CommandLine
end ApiBlueprint
