import ApiBlueprint.Json.Record

/-! Where an element comes from: runs of bytes of the document. -/
namespace ApiBlueprint.Source
open Json

/-- `length` bytes from `offset` on. Nothing relates the two to any document. -/
structure Span where
  offset : UInt64
  length : UInt64
  deriving DecidableEq, Repr

/-- The runs of an element, in order. Only the first one places it. -/
structure SourceMap where
  spans : List Span
  deriving DecidableEq, Repr

namespace Span

def toValue (span : Span) : Value :=
  .record [("offset", .ofNat64 span.offset), ("length", .ofNat64 span.length)]

def ofValue : Reader Span
  | .object members => do
    let length ← field? members "length" Reader.unsigned64
    let offset ← field? members "offset" Reader.unsigned64
    return ⟨← required "offset" offset, ← required "length" length⟩
  | .array items => do
    let offset ← item "SourceSpan" 2 items 0 Reader.unsigned64
    let length ← item "SourceSpan" 2 items 1 Reader.unsigned64
    noMoreThan 2 items
    return ⟨offset, length⟩
  | v => .error (.wrongType v (.record "SourceSpan"))

end Span

namespace SourceMap

def toValue (map : SourceMap) : Value :=
  .record [("spans", .array (map.spans.map Span.toValue))]

def ofValue : Reader SourceMap
  | .object members => do
    let spans ← field? members "spans" (Reader.list Span.ofValue)
    return ⟨← required "spans" spans⟩
  | .array items => do
    let spans ← item "SourceMap" 1 items 0 (Reader.list Span.ofValue)
    noMoreThan 1 items
    return ⟨spans⟩
  | v => .error (.wrongType v (.record "SourceMap"))

end SourceMap
end ApiBlueprint.Source
