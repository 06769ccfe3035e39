import ApiBlueprint.Diagnostic
import ApiBlueprint.Source.Span

/-! Parse trees of API Elements. Categories, resources and annotations are told apart; every
other element keeps its name and children. -/
namespace ApiBlueprint
open Source

/-- A text and where it came from. -/
structure Located where
  content : String
  sourceMap : Option SourceMap
  deriving DecidableEq, Repr

/-- An annotation: a message of the parser about the document. It has no children. -/
structure Note where
  classes : List String
  code : Option Code
  message : String
  sourceMap : Option SourceMap
  deriving DecidableEq, Repr

inductive Element where
  | category (title : Option Located) (classes : List String) (children : List Element)
  | resource (title : Option Located) (href : Option String) (children : List Element)
  | remark (note : Note)
  | other (tag : String) (children : List Element)
  deriving Repr

/-- The API or a resource group. -/
structure Category where
  title : Option Located
  classes : List String
  children : List Element
  deriving Repr

structure Resource where
  title : Option Located
  href : Option String
  children : List Element
  deriving Repr

/-- The top-level elements of a parse. -/
structure ParseResult where
  content : List Element
  deriving Repr

namespace Element

def tag : Element → String
  | category _ _ _ => "category"
  | resource _ _ _ => "resource"
  | remark _ => "annotation"
  | other tag _ => tag

def children : Element → List Element
  | category _ _ children => children
  | resource _ _ children => children
  | remark _ => []
  | other _ children => children

def category? : Element → Option Category
  | category title classes children => some ⟨title, classes, children⟩
  | _ => none

mutual

def annotations : Element → List Note
  | category _ _ children => annotationsIn children
  | resource _ _ children => annotationsIn children
  | remark note => [note]
  | other _ children => annotationsIn children

def annotationsIn : List Element → List Note
  | [] => []
  | e :: rest => annotations e ++ annotationsIn rest

end

mutual

/-- Outermost categories at or below an element, not looking into resources. -/
def categories : Element → List Category
  | category title classes children => [⟨title, classes, children⟩]
  | resource _ _ _ => []
  | remark _ => []
  | other _ children => categoriesIn children

def categoriesIn : List Element → List Category
  | [] => []
  | e :: rest => categories e ++ categoriesIn rest

end

mutual

/-- Outermost resources at or below an element, looking into categories. -/
def resources : Element → List Resource
  | category _ _ children => resourcesIn children
  | resource title href children => [⟨title, href, children⟩]
  | remark _ => []
  | other _ children => resourcesIn children

def resourcesIn : List Element → List Resource
  | [] => []
  | e :: rest => resources e ++ resourcesIn rest

end
end Element

namespace Category

def groups (c : Category) : List Category := Element.categoriesIn c.children

def resources (c : Category) : List Resource := Element.resourcesIn c.children

end Category

namespace ParseResult

/-- The first category at the top is the API. -/
def api? (result : ParseResult) : Option Category := result.content.findSome? Element.category?

def annotations (result : ParseResult) : List Note := Element.annotationsIn result.content

end ParseResult
end ApiBlueprint
