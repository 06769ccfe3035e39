/-! Why and where a text is not JSON. -/
namespace ApiBlueprint.Json

inductive Cause where
  | endInValue
  | endInString
  | endInList
  | endInObject
  | expectedValue
  | expectedIdent
  | expectedListEnd
  | expectedObjectEnd
  | expectedColon
  | keyNotString
  | trailingComma
  | trailingCharacters
  | invalidNumber
  | numberOutOfRange
  | controlCharacter
  | invalidEscape
  | loneSurrogate
  | endOfHexEscape
  | depthLimit
  deriving DecidableEq, Repr

namespace Cause

def message : Cause → String
  | endInValue => "EOF while parsing a value"
  | endInString => "EOF while parsing a string"
  | endInList => "EOF while parsing a list"
  | endInObject => "EOF while parsing an object"
  | expectedValue => "expected value"
  | expectedIdent => "expected ident"
  | expectedListEnd => "expected `,` or `]`"
  | expectedObjectEnd => "expected `,` or `\x7d`"
  | expectedColon => "expected `:`"
  | keyNotString => "key must be a string"
  | trailingComma => "trailing comma"
  | trailingCharacters => "trailing characters"
  | invalidNumber => "invalid number"
  | numberOutOfRange => "number out of range"
  | controlCharacter => "control character (\\u0000-\\u001F) found while parsing a string"
  | invalidEscape => "invalid escape"
  | loneSurrogate => "lone leading surrogate in hex escape"
  | endOfHexEscape => "unexpected end of hex escape"
  | depthLimit => "recursion limit exceeded"

end Cause

/-- A cause at a byte offset; the bytes before the offset are those already looked at. -/
structure Fault where
  cause : Cause
  offset : Nat
  deriving DecidableEq, Repr

/-- Line and column of a byte offset: one more than the line feeds before it, and the bytes
since the last of them. -/
def lineAndColumn (offset : Nat) (text : List Char) : Nat × Nat := go offset 1 0 text
where
  go : Nat → Nat → Nat → List Char → Nat × Nat
    | _, line, column, [] => (line, column)
    | left, line, column, c :: rest =>
      if left < c.utf8Size then (line, column + left)
      else if c = '\n' then go (left - 1) (line + 1) 0 rest
      else go (left - c.utf8Size) line (column + c.utf8Size) rest

/-- A fault as it is reported. Lines count from one and columns are bytes. -/
structure SyntaxError where
  cause : Cause
  line : Nat
  column : Nat
  deriving DecidableEq, Repr

def SyntaxError.message (e : SyntaxError) : String :=
  e.cause.message ++ " at line " ++ toString e.line ++ " column " ++ toString e.column

def Fault.report (fault : Fault) (text : List Char) : SyntaxError :=
  let (line, column) := lineAndColumn fault.offset text
  ⟨fault.cause, line, column⟩

end ApiBlueprint.Json
