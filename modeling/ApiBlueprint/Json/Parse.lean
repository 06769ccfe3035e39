import ApiBlueprint.Json.Literal

/-! Reading a JSON text. Tokens are fed one by one to a machine that keeps the open arrays and
objects on a stack, so the reader is a loop and the nesting is the height of the stack. -/
namespace ApiBlueprint.Json

/-- What a machine is told. A literal that breaks off is passed on with its fault, because
where no value is wanted another fault comes first. -/
inductive Token where
  | openArray
  | closeArray
  | openObject
  | closeObject
  | comma
  | colon
  | string (s : String)
  | scalar (v : Value)
  | brokenString (fault : Fault)
  | brokenScalar (fault : Fault)
  | stray
  deriving Repr

/-- Tokens after their first character: the token, the further characters and bytes taken. -/
def scanToken (offset : Nat) (c : Char) (rest : List Char) : Scanned Token :=
  let literal {α : Type} (scan : Except Fault (Scanned α)) (done : α → Token)
      (broken : Fault → Token) (own : Nat) : Scanned Token :=
    match scan with
    | .ok s => ⟨done s.value, s.chars - own, s.bytes - own⟩
    | .error fault => ⟨broken fault, 0, 0⟩
  let word (value : Value) (letters : String) : Scanned Token :=
    literal (scanWord value (offset + 1) 0 letters.toList rest) .scalar .brokenScalar 0
  match c with
  | '[' => ⟨.openArray, 0, 0⟩
  | ']' => ⟨.closeArray, 0, 0⟩
  | '\x7b' => ⟨.openObject, 0, 0⟩
  | '\x7d' => ⟨.closeObject, 0, 0⟩
  | ',' => ⟨.comma, 0, 0⟩
  | ':' => ⟨.colon, 0, 0⟩
  | 'n' => word .null "ull"
  | 't' => word (.bool true) "rue"
  | 'f' => word (.bool false) "alse"
  | '"' => literal (scanString [] 0 0 (offset + 1) rest) .string .brokenString 0
  | _ =>
    if c = '-' ∨ c.isDigit then
      literal (scanNumber offset (c :: rest)) (fun n => .scalar (.number n)) .brokenScalar 1
    else ⟨.stray, 0, 0⟩

/-- A container that is open. Items are newest first; an object waits for the value of `key`. -/
inductive Frame where
  | array (items : List Value)
  | object (members : Members) (key : String)
  deriving Repr

/-- What may come next in the innermost open container. -/
inductive Want where
  | value
  | firstItem
  | laterItem
  | itemEnd
  | firstKey (members : Members)
  | laterKey (members : Members)
  | colon
  | memberEnd (members : Members)
  | nothing (value : Value)
  deriving Repr

/-- `stack` holds the open containers, innermost first. While keys are read the innermost object
is held in `want`. -/
structure Machine where
  stack : List Frame := []
  want : Want := .value
  deriving Repr

namespace Machine

/-- Containers may nest this deep less one. -/
def depthLimit : Nat := 128

def depth (m : Machine) : Nat :=
  m.stack.length + match m.want with
    | .firstKey _ | .laterKey _ | .memberEnd _ => 1
    | _ => 0

/-- A complete value goes into the innermost container. -/
def deliver (stack : List Frame) (value : Value) : Machine :=
  match stack with
  | [] => ⟨[], .nothing value⟩
  | .array items :: rest => ⟨.array (value :: items) :: rest, .itemEnd⟩
  | .object members key :: rest => ⟨rest, .memberEnd (members.insert key value)⟩

def closeArray (stack : List Frame) : Machine :=
  match stack with
  | .array items :: rest => deliver rest (.array items.reverse)
  | stack => ⟨stack, .value⟩

def acceptValue (m : Machine) (offset : Nat) : Token → Except Fault Machine
  | .scalar v => .ok (deliver m.stack v)
  | .string s => .ok (deliver m.stack (.string s))
  | .brokenString fault | .brokenScalar fault => .error fault
  | .openArray =>
    if m.depth + 1 < depthLimit then .ok ⟨.array [] :: m.stack, .firstItem⟩
    else .error ⟨.depthLimit, offset + 1⟩
  | .openObject =>
    if m.depth + 1 < depthLimit then .ok ⟨m.stack, .firstKey []⟩
    else .error ⟨.depthLimit, offset + 1⟩
  | _ => .error ⟨.expectedValue, offset + 1⟩

def acceptKey (m : Machine) (members : Members) (offset : Nat) : Token → Except Fault Machine
  | .string s => .ok ⟨.object members s :: m.stack, .colon⟩
  | .brokenString fault => .error fault
  | _ => .error ⟨.keyNotString, offset + 1⟩

def accept (m : Machine) (offset : Nat) (token : Token) : Except Fault Machine :=
  let refuse (cause : Cause) : Except Fault Machine := .error ⟨cause, offset + 1⟩
  match m.want, token with
  | .value, _ => m.acceptValue offset token
  | .firstItem, .closeArray => .ok (closeArray m.stack)
  | .firstItem, _ => m.acceptValue offset token
  | .laterItem, .closeArray => refuse .trailingComma
  | .laterItem, _ => m.acceptValue offset token
  | .itemEnd, .comma => .ok { m with want := .laterItem }
  | .itemEnd, .closeArray => .ok (closeArray m.stack)
  | .itemEnd, _ => refuse .expectedListEnd
  | .firstKey members, .closeObject => .ok (deliver m.stack (.object members))
  | .firstKey members, _ => m.acceptKey members offset token
  | .laterKey _, .closeObject => refuse .trailingComma
  | .laterKey members, _ => m.acceptKey members offset token
  | .colon, .colon => .ok { m with want := .value }
  | .colon, _ => refuse .expectedColon
  | .memberEnd members, .comma => .ok { m with want := .laterKey members }
  | .memberEnd members, .closeObject => .ok (deliver m.stack (.object members))
  | .memberEnd _, _ => refuse .expectedObjectEnd
  | .nothing _, _ => refuse .trailingCharacters

def finish (m : Machine) (size : Nat) : Except Fault Value :=
  match m.want with
  | .nothing value => .ok value
  | .value | .laterItem | .laterKey _ => .error ⟨.endInValue, size⟩
  | .firstItem | .itemEnd => .error ⟨.endInList, size⟩
  | .firstKey _ | .colon | .memberEnd _ => .error ⟨.endInObject, size⟩

end Machine

def isSpace (c : Char) : Bool := c == ' ' || c == '\t' || c == '\n' || c == '\r'

/-- Feed the tokens of a text that starts at `offset`. -/
def readFrom (m : Machine) (offset : Nat) (text : List Char) : Except Fault Value :=
  match text with
  | [] => m.finish offset
  | c :: rest =>
    if isSpace c then readFrom m (offset + 1) rest
    else
      let token := scanToken offset c rest
      match m.accept offset token.value with
      | .error fault => .error fault
      | .ok next => readFrom next (offset + c.utf8Size + token.bytes) (rest.drop token.chars)
termination_by text.length
decreasing_by all_goals (simp only [List.length_cons, List.length_drop]; omega)

def parse (text : String) : Except SyntaxError Value :=
  (readFrom {} 0 text.toList).mapError fun fault => fault.report text.toList

end ApiBlueprint.Json
