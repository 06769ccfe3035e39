import ApiBlueprint.Text.Utf8
import ApiBlueprint.Uri.Address

/-! Paths, queries and fragments in normal form: what may not stand in them is escaped, and a path
leads straight down. -/
namespace ApiBlueprint.Uri

/-- Characters that are escaped in a part beside controls and all that is not ASCII. -/
abbrev Marks := List Char

def fragmentMarks : Marks := " \"<>`".toList
def pathMarks : Marks := fragmentMarks ++ "#?\x7b\x7d".toList
def userMarks : Marks := pathMarks ++ "/:;=@[\\]^|".toList

/-- An apostrophe is escaped in a query of a network scheme. -/
def queryMarks (isNetwork : Bool) : Marks :=
  " \"#<>".toList ++ if isNetwork then "\x27".toList else []

def hexLetter (n : Nat) : Char := if n < 10 then Char.ofNat (n + 48) else Char.ofNat (n + 55)

def escapeByte (byte : UInt8) : List Char :=
  ['%', hexLetter (byte.toNat / 16), hexLetter (byte.toNat % 16)]

/-- A percent sign is never escaped, so what is escaped already stays as it is. -/
def escape (marks : Marks) (text : List Char) : List Char :=
  text.flatMap fun c =>
    if c.toNat < 0x20 || 0x7F ≤ c.toNat || marks.contains c then
      (Text.Utf8.encode (String.ofList [c])).flatMap escapeByte
    else [c]

/-! Segments of a path. -/

def isHere (segment : List Char) : Bool :=
  [".".toList, "%2e".toList].contains (segment.map Char.toLower)

def isParent (segment : List Char) : Bool :=
  ["..".toList, ".%2e".toList, "%2e.".toList, "%2e%2e".toList].contains (segment.map Char.toLower)

/-- A drive, which is no host and is never left. -/
def isDrive : List Char → Bool
  | [letter, mark] => letter.isAlpha && (mark == ':' || mark == '|')
  | _ => false

/-- The segments above the last one, newest first. -/
def leave (isFile : Bool) : List (List Char) → List (List Char)
  | [] => []
  | segment :: above =>
    if isFile && isDrive segment && above.all List.isEmpty then segment :: above else above

/-- The first segment of a file may be a drive, which is written with a colon. -/
def enter (isFile : Bool) (above : List (List Char)) (segment : List Char) : List (List Char) :=
  if isFile && isDrive segment && above.all List.isEmpty then
    (segment.take 1 ++ [':']) :: above
  else segment :: above

/-- Follow a path from the segments passed, newest first. A path that ends in a step of its own ends
in an empty segment. -/
def descend (isFile : Bool) : List (List Char) → List (List Char) → List (List Char)
  | above, [] => above.reverse
  | above, segment :: rest =>
    let arrive (above : List (List Char)) := if rest.isEmpty then [] :: above else above
    if isParent segment then descend isFile (arrive (leave isFile above)) rest
    else if isHere segment then descend isFile (arrive above) rest
    else descend isFile (enter isFile above segment) rest

/-- The segments of a path in normal form. Those of a file do not start with empty ones. -/
def segments (isFile : Bool) (path : List Char) : List (List Char) :=
  let path := if path.head? = some '/' then path.drop 1 else path
  let passed := descend isFile [] ((pieces '/' path).map (escape pathMarks))
  if isFile then passed.dropWhile List.isEmpty else passed

def joined (segments : List (List Char)) : List Char := '/' :: ['/'].intercalate segments

def endsPath (c : Char) : Bool := c == '?' || c == '#'

/-- A query and a fragment, each behind its mark. -/
def afterPath (isNetwork : Bool) (text : List Char) : List Char :=
  let fragment := text.dropWhile (· ≠ '#')
  escape (queryMarks isNetwork) (text.takeWhile (· ≠ '#')) ++ escape fragmentMarks fragment

end ApiBlueprint.Uri
