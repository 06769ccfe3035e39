import ApiBlueprint.Text.Measure

/-! A text is cut into lines at each line feed. A carriage return directly before the feed
belongs to the ending; any other carriage return is content. -/
namespace ApiBlueprint.Text

/-- How a line is closed. Only the last line of a text is open. -/
inductive Ending where
  | unclosed
  | lf
  | crlf
  deriving DecidableEq, Repr

namespace Ending

def chars : Ending → List Char
  | unclosed => []
  | lf => ['\n']
  | crlf => ['\r', '\n']

/-- Bytes taken by the ending. -/
def width : Ending → Nat
  | unclosed => 0
  | lf => 1
  | crlf => 2

end Ending

/-- One line of a text; `start` is the byte offset of its first character. -/
structure Line where
  start : Nat
  content : List Char
  ending : Ending
  deriving DecidableEq, Repr

namespace Line

/-- Offset just after the ending, which is where the next line starts. -/
def stop (line : Line) : Nat := line.start + byteCount line.content + line.ending.width

end Line

/-- Put one character in front of a text that is already cut. A return joins the feed
that directly follows it. -/
def prependChar (c : Char) : List (List Char × Ending) → List (List Char × Ending)
  | [] => [([c], .unclosed)]
  | (content, ending) :: rest =>
    if c = '\n' then ([], .lf) :: (content, ending) :: rest
    else if c = '\r' ∧ content = [] ∧ ending = .lf then ([], .crlf) :: rest
    else (c :: content, ending) :: rest

/-- Contents and endings in order. There is always a last, unclosed line. -/
def cutLines (text : List Char) : List (List Char × Ending) :=
  text.foldr prependChar [([], .unclosed)]

/-- Give each line the offset at which the one before it stops. -/
def placeLines (start : Nat) : List (List Char × Ending) → List Line
  | [] => []
  | (content, ending) :: rest =>
    ⟨start, content, ending⟩ ::
      placeLines (start + byteCount content + ending.width) rest

/-- A text together with its lines. -/
structure Lines where
  text : List Char
  all : List Line
  all_eq : all = placeLines 0 (cutLines text)
  deriving DecidableEq, Repr

namespace Lines

def ofText (text : String) : Lines := ⟨text.toList, placeLines 0 (cutLines text.toList), rfl⟩

/-- Number of lines, one more than the number of feeds. -/
def count (lines : Lines) : Nat := lines.all.length

def isEmpty (lines : Lines) : Bool := lines.text.isEmpty

/-- Bytes of the whole text. -/
def size (lines : Lines) : Nat := byteCount lines.text

/-- Content of line `k` without its ending. -/
def line? (lines : Lines) (k : Nat) : Option String :=
  lines.all[k]?.map fun line => String.ofList line.content

/-- Index of the line that holds the byte at `offset`. An ending belongs to the line it
closes; offsets past the last byte fall on the last line. -/
def indexAt (lines : Lines) (offset : Nat) : Nat :=
  min (lines.all.findIdx fun line => offset < line.stop) (lines.count - 1)

end Lines
end ApiBlueprint.Text
