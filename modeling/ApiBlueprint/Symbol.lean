import ApiBlueprint.Source.Position

/-! Entries of a document's outline. -/
namespace ApiBlueprint
open Json Source

/-- The API itself, or a resource within it. -/
inductive SymbolKind where
  | package
  | property
  deriving DecidableEq, Repr

namespace SymbolKind

def text : SymbolKind → String
  | package => "package"
  | property => "property"

def number : SymbolKind → UInt32
  | package => 4
  | property => 7

def toValue (kind : SymbolKind) : Value := .string kind.text

def ofValue : Reader SymbolKind := Reader.variant [("package", package), ("property", property)]

end SymbolKind

/-- The range is that of the title; the container is named, not linked. -/
structure Symbol where
  name : String
  kind : SymbolKind
  range : Range
  containerName : Option String
  deriving DecidableEq, Repr

namespace Symbol

def members (s : Symbol) : List (String × Option Value) :=
  [("name", some (.string s.name)), ("kind", some s.kind.toValue),
    ("range", some s.range.toValue), ("container_name", s.containerName.map Value.string)]

theorem nodup_members (s : Symbol) : (s.members.map Prod.fst).Nodup := by simp [members]

def toValue (s : Symbol) : Value := .sparse s.members

def ofValue : Reader Symbol
  | .object members => do
    let containerName ← field? members "container_name" (Reader.optional Reader.string)
    let kind ← field? members "kind" SymbolKind.ofValue
    let name ← field? members "name" Reader.string
    let range ← field? members "range" Range.ofValue
    return ⟨← required "name" name, ← required "kind" kind, ← required "range" range,
      containerName.join⟩
  | .array items => do
    let name ← item "Symbol" 4 items 0 Reader.string
    let kind ← item "Symbol" 4 items 1 SymbolKind.ofValue
    let range ← item "Symbol" 4 items 2 Range.ofValue
    let containerName ← item "Symbol" 4 items 3 (Reader.optional Reader.string)
    noMoreThan 4 items
    return ⟨name, kind, range, containerName⟩
  | v => .error (.wrongType v (.record "Symbol"))

end Symbol
end ApiBlueprint
