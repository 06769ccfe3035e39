import ApiBlueprint.Uri.Domain
import ApiBlueprint.Uri.Path

/-! Absolute URIs: their normal form, or why a text is none. A few schemes name a host in a form of
their own; for the others the host is any text. Nothing after the host is ever wrong. -/
namespace ApiBlueprint.Uri

inductive Fault where
  | relative
  | emptyHost
  | badName
  | badCharacter
  | badShortAddress
  | badLongAddress
  | badService
  deriving DecidableEq, Repr

def Fault.message : Fault → String
  | relative => "relative URL without a base"
  | emptyHost => "empty host"
  | badName => "invalid international domain name"
  | badCharacter => "invalid domain character"
  | badShortAddress => "invalid IPv4 address"
  | badLongAddress => "invalid IPv6 address"
  | badService => "invalid port number"

/-- Controls and blanks at the ends do not count, tabs and line breaks nowhere. -/
def clean (text : List Char) : List Char :=
  let isEdge (c : Char) : Bool := c.toNat ≤ 0x20
  let trimmed := ((text.dropWhile isEdge).reverse.dropWhile isEdge).reverse
  trimmed.filter fun c => c ≠ '\t' && c ≠ '\n' && c ≠ '\r'

/-- The scheme and what follows its colon. A scheme starts with a letter. -/
def scheme? (text : List Char) : Option (List Char × List Char) :=
  let scheme := text.takeWhile fun c => c.isAlphanum || c == '+' || c == '-' || c == '.'
  match text.drop scheme.length with
  | ':' :: rest =>
    if scheme.head?.any Char.isAlpha then some (scheme.map Char.toLower, rest) else none
  | _ => none

/-- Schemes, apart from `file`, that name a host in a form of their own, with the number of the
service that is meant if none is given. -/
def networkSchemes : List (String × Nat) :=
  [("ftp", 21), ("http", 80), ("https", 443), ("ws", 80), ("wss", 443)]

def isSlash (c : Char) : Bool := c == '/' || c == '\\'

def endsAuthority (isNetwork : Bool) (c : Char) : Bool :=
  c == '/' || c == '?' || c == '#' || (isNetwork && c == '\\')

def bracketHost (host : List Char) : Except Fault (List Char) :=
  match Address.long? (host.drop 1).dropLast, host.getLast? with
  | some pairs, some ']' => .ok (Address.longText pairs)
  | _, _ => .error .badLongAddress

def networkHost (host : List Char) : Except Fault (List Char) :=
  if host.head? = some '[' then bracketHost host
  else
    match Domain.fold? host with
    | none => .error .badName
    | some [] => .error .emptyHost
    | some name =>
      if Address.endsInNumber name then
        match Address.short? name with
        | some bytes => .ok (Address.shortText bytes)
        | none => .error .badShortAddress
      else .ok name

def plainHost (host : List Char) : Except Fault (List Char) :=
  if host.head? = some '[' then bracketHost host
  else if host.any fun c => c == '\x00' || " #/:<>?@[\\]^|".toList.contains c then
    .error .badCharacter
  else .ok (escape [] host)

/-- Split at the colon after the host. One in brackets belongs to the host. -/
def splitHost (inBrackets : Bool) : List Char → List Char × List Char
  | [] => ([], [])
  | c :: rest =>
    if c == ':' && !inBrackets then ([], c :: rest)
    else
      let (host, service) := splitHost (c == '[' || (inBrackets && c != ']')) rest
      (c :: host, service)

/-- A colon and a number of sixteen bits, or nothing. The number is left out if it is the usual one.
The second part is what follows. -/
def service (usual : Option Nat) : List Char → Except Fault (List Char × List Char)
  | ':' :: text =>
    let digits := text.takeWhile Char.isDigit
    let rest := text.drop digits.length
    let isEnd : Bool := match rest with
      | [] => true
      | c :: _ => isSlash c
    match (Address.value? 10 digits).filter (· < 0x10000) with
    | some n =>
      if !isEnd then .error .badService
      else if digits.isEmpty || usual == some n then .ok ([], rest)
      else .ok (':' :: Nat.toDigits 10 n, rest)
    | none => .error .badService
  | rest => .ok ([], rest)

/-- The part before the last `@`, if there is one, and the rest. -/
def splitUser (authority : List Char) : Option (List Char) × List Char :=
  let host := (authority.reverse.takeWhile (· ≠ '@')).reverse
  if host.length < authority.length then
    (some (authority.take (authority.length - host.length - 1)), host)
  else (none, authority)

/-- A name and a password behind the first colon. Nothing is written of what is empty. -/
def userText (user : List Char) : List Char :=
  let name := user.takeWhile (· ≠ ':')
  let password := user.drop (name.length + 1)
  let text := escape userMarks name ++
    if password.isEmpty then [] else ':' :: escape userMarks password
  if text.isEmpty then [] else text ++ ['@']

/-- The path, the query and the fragment behind a host. In a network scheme there is always a path,
and both slashes separate its segments. -/
def location (isNetwork : Bool) (text : List Char) : List Char :=
  let path := text.takeWhile fun c => !endsPath c
  let rest := text.drop path.length
  if isNetwork then
    joined (segments false (path.map fun c => if isSlash c then '/' else c)) ++ afterPath true rest
  else (if path.isEmpty then [] else joined (segments false path)) ++ afterPath false rest

/-- A user, a host, the number of its service and what follows. A user needs a host. `usual` is the
number usual for a network scheme. -/
def authority (usual : Option Nat) (text : List Char) : Except Fault (List Char) := do
  let isNetwork := usual.isSome
  let authority := text.takeWhile fun c => !endsAuthority isNetwork c
  let (user, place) := splitUser authority
  let (host, behind) := splitHost false place
  if user = some [] ∧ place = [] ∧ authority.length < text.length then throw .emptyHost
  if host.isEmpty && (isNetwork || !behind.isEmpty) then throw .emptyHost
  let hostText ← if isNetwork then networkHost host else plainHost host
  let (number, rest) ← service usual behind
  let user := user.getD []
  if host.isEmpty && user ≠ [] && user ≠ [':'] then throw .emptyHost
  return "//".toList ++ userText user ++ hostText ++ number ++
    location isNetwork (rest ++ text.drop authority.length)

/-- A path without a host. Two slashes at its start would be taken for those before a host. -/
def hostless (text : List Char) : List Char :=
  let path := text.takeWhile fun c => !endsPath c
  let rest := afterPath false (text.drop path.length)
  if path.head? = some '/' then
    let path := joined (segments false path)
    (if path.take 2 = ['/', '/'] then ['/', '.'] else []) ++ path ++ rest
  else escape [] path ++ rest

/-- The host of a file, which may be left out, and what follows. The machine itself is not named. -/
def fileHost : List Char → Except Fault (List Char × List Char)
  | a :: b :: rest => do
    let host := rest.takeWhile fun c => !endsAuthority true c
    if !(isSlash a && isSlash b) then return ([], a :: b :: rest)
    if host.isEmpty || isDrive host then return ([], rest)
    let name ← networkHost host
    return (if name = "localhost".toList then [] else name, rest.drop host.length)
  | text => .ok ([], text)

/-- A file. One on a drive has no host. -/
def file (text : List Char) : Except Fault (List Char) := do
  let (host, text) ← fileHost text
  let path := text.takeWhile fun c => !endsPath c
  let passed := segments true (path.map fun c => if isSlash c then '/' else c)
  let host := if passed.head?.any isDrive then [] else host
  return "//".toList ++ host ++ joined passed ++ afterPath true (text.drop path.length)

/-- The normal form of an absolute URI, or why a text is none. -/
def normalize (text : String) : Except Fault String :=
  match scheme? (clean text.toList) with
  | none => .error .relative
  | some (scheme, rest) =>
    let body : Except Fault (List Char) :=
      if scheme = "file".toList then file rest
      else
        match networkSchemes.lookup (String.ofList scheme), rest with
        | some usual, rest => authority (some usual) (rest.dropWhile isSlash)
        | none, '/' :: '/' :: rest => authority none rest
        | none, rest => .ok (hostless rest)
    body.map fun body => String.ofList (scheme ++ ':' :: body)

end ApiBlueprint.Uri
