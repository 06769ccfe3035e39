import ApiBlueprint.Source.Position
import ApiBlueprint.Source.Span
import ApiBlueprint.Text.Line

/-! From bytes to lines and columns. A source map is placed by its first span. The span is
clipped to the line it starts on and to whole characters. -/
namespace ApiBlueprint.Source
open Json Text

/-- The greatest number that fits 32 bits stands for all greater ones. -/
def saturate32 (n : Nat) : UInt32 := UInt32.ofNat (min n 0xFFFFFFFF)

/-- A run of UTF-16 code units on one line. -/
structure Reference where
  line : UInt32
  startColumn : UInt32
  charCount : UInt32
  deriving DecidableEq, Repr

namespace Reference

/-- The start of a document. -/
def origin : Reference := ⟨0, 0, 0⟩

/-- Both ends are on the line; the end column saturates. -/
def range (ref : Reference) : Range :=
  ⟨⟨ref.line, ref.startColumn⟩,
    ⟨ref.line, saturate32 (ref.startColumn.toNat + ref.charCount.toNat)⟩⟩

def toValue (ref : Reference) : Value :=
  .record [("line", .ofNat32 ref.line), ("start_column", .ofNat32 ref.startColumn),
    ("char_count", .ofNat32 ref.charCount)]

def ofValue : Reader Reference
  | .object members => do
    let charCount ← field? members "char_count" Reader.unsigned32
    let line ← field? members "line" Reader.unsigned32
    let startColumn ← field? members "start_column" Reader.unsigned32
    return ⟨← required "line" line, ← required "start_column" startColumn,
      ← required "char_count" charCount⟩
  | .array items => do
    let line ← item "LineReference" 3 items 0 Reader.unsigned32
    let startColumn ← item "LineReference" 3 items 1 Reader.unsigned32
    let charCount ← item "LineReference" 3 items 2 Reader.unsigned32
    noMoreThan 3 items
    return ⟨line, startColumn, charCount⟩
  | v => .error (.wrongType v (.record "LineReference"))

/-- The run of `length` bytes from byte `column` of a line's content. Both ends move back to
the end of the content and to character boundaries. -/
def onLine (index column length : Nat) (content : List Char) : Reference :=
  let before := takeBytes column content
  let upTo := takeBytes (column + length) content
  ⟨saturate32 index, saturate32 (unitCount before),
    saturate32 (unitCount upTo - unitCount before)⟩

end Reference

/-- Why a source map places nothing. -/
inductive Unplaced where
  | noSpan
  | outside (offset : UInt64) (size : Nat)
  deriving DecidableEq, Repr

def Unplaced.message : Unplaced → String
  | noSpan => "element carries no source map"
  | outside offset size =>
    "source offset " ++ toString offset.toNat ++ " is outside the document (length " ++
      toString size ++ ")"

/-- The place of a span that starts within the text or at its end. -/
def placeSpan (lines : Lines) (span : Span) : Reference :=
  let offset := span.offset.toNat
  let index := lines.indexAt offset
  match lines.all[index]? with
  | some line => .onLine index (offset - line.start) span.length.toNat line.content
  | none => .origin

/-- The place of a source map in a text. -/
def resolve (lines : Lines) (map : SourceMap) : Except Unplaced Reference :=
  match map.spans with
  | [] => .error .noSpan
  | span :: _ =>
    if lines.size < span.offset.toNat then .error (.outside span.offset lines.size)
    else .ok (placeSpan lines span)

/-- What has no place is put at the start of the document. -/
def resolveOrStart (lines : Lines) (map : Option SourceMap) : Reference :=
  match map.map (resolve lines) with
  | some (.ok ref) => ref
  | _ => .origin

end ApiBlueprint.Source
