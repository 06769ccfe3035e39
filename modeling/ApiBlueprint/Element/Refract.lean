import ApiBlueprint.Element.Tree
import ApiBlueprint.Json.Parse

/-! Reading parse trees from API Elements JSON. Each value may be written bare or wrapped in
elements of its own; only the root can be refused. -/
namespace ApiBlueprint.Refract
open Json Source

/-- Why a text is no parse result. -/
inductive ReadError where
  | invalidJson (e : SyntaxError)
  | missingElement
  | notAnObject
  deriving DecidableEq, Repr

def ReadError.message : ReadError → String
  | invalidJson e => "invalid JSON: " ++ e.message
  | missingElement => "missing required field: element"
  | notAnObject => "invalid type: expected object for parse result"

mutual

/-- Take a value out of its wrappers. A wrapper without content holds `null`. -/
def unwrap : Value → Value
  | .object members =>
    if Members.contains "element" members then unwrapContent members else .object members
  | v => v

def unwrapContent : List (String × Value) → Value
  | [] => .null
  | (key, v) :: rest => if key = "content" then unwrap v else unwrapContent rest

end

def string? (v : Value) : Option String := (unwrap v).string?

def strings (v : Value) : List String :=
  match unwrap v with
  | .array items => items.filterMap string?
  | _ => []

def code? (v : Value) : Option Code := Code.ofScalar? (unwrap v)

/-- Two unsigned numbers are an offset and a length. -/
def pair? : List Value → Option Span
  | [a, b] => do return ⟨← (unwrap a).nat64?, ← (unwrap b).nat64?⟩
  | _ => none

mutual

/-- Every pair of numbers in nested lists, in order. -/
def spans : Value → List Span
  | .array items =>
    match pair? items with
    | some span => [span]
    | none => spansIn items
  | .object members => if Members.contains "element" members then spansOfContent members else []
  | _ => []

def spansIn : List Value → List Span
  | [] => []
  | v :: rest => spans v ++ spansIn rest

def spansOfContent : List (String × Value) → List Span
  | [] => []
  | (key, v) :: rest => if key = "content" then spans v else spansOfContent rest

end

/-- A source map without spans is none. -/
def sourceMap? (v : Value) : Option SourceMap :=
  let found := spans v
  if found.isEmpty then none else some ⟨found⟩

/-- A title's source map stands on its outermost wrapper. -/
def located? (v : Value) : Option Located := do
  let content ← string? v
  return ⟨content, ((v.get? "attributes").bind (·.get? "sourceMap")).bind sourceMap?⟩

/-- The element that a tag, the members beside it and the children make. -/
def assemble (tag : String) (members : Members) (children : List Element) : Element :=
  let part (name key : String) : Option Value := (members.get? name).bind (·.get? key)
  let title := (part "meta" "title").bind located?
  let classes := ((part "meta" "classes").map strings).getD []
  match tag with
  | "category" => .category title classes children
  | "resource" => .resource title ((part "attributes" "href").bind string?) children
  | "annotation" => .remark {
      classes
      code := (part "attributes" "code").bind code?
      message := ((members.get? "content").bind string?).getD ""
      sourceMap := (part "attributes" "sourceMap").bind sourceMap? }
  | _ => .other tag children

def tag? (members : Members) : Option String := (members.get? "element").bind Value.string?

mutual

/-- An object with a string `element` is an element, whatever else it holds. -/
def element? : Value → Option Element
  | .object members => (tag? members).map fun tag => assemble tag members (childrenOf members)
  | _ => none

def childrenOf : List (String × Value) → List Element
  | [] => []
  | (key, v) :: rest => if key = "content" then items v else childrenOf rest

def items : Value → List Element
  | .array vs => elementsIn vs
  | _ => []

def elementsIn : List Value → List Element
  | [] => []
  | v :: rest => (element? v).toList ++ elementsIn rest

end

/-- A root that is no `parseResult` is its own only top-level element. -/
def ofValue : Value → Except ReadError ParseResult
  | .object members =>
    match tag? members with
    | none => .error .missingElement
    | some tag =>
      let children := childrenOf members
      .ok ⟨if tag = "parseResult" then children else [assemble tag members children]⟩
  | _ => .error .notAnObject

def ofText (text : String) : Except ReadError ParseResult :=
  match parse text with
  | .error e => .error (.invalidJson e)
  | .ok v => ofValue v

end ApiBlueprint.Refract
