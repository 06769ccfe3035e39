import ApiBlueprint.Text.Canonical
import ApiBlueprint.Text.Utf8
import ApiBlueprint.Uri.Address
import ApiBlueprint.Uri.Direction
import ApiBlueprint.Uri.Joiner
import ApiBlueprint.Uri.Punycode

/-! Names of hosts as labels between dots. -/
namespace ApiBlueprint.Uri.Domain

/-- The byte that a percent sign and two digits spell. -/
def escaped? (sign high low : UInt8) : Option UInt8 := do
  let m ← Address.hexDigit? (Char.ofNat high.toNat)
  let n ← Address.hexDigit? (Char.ofNat low.toNat)
  if sign = 0x25 then some (UInt8.ofNat (m * 16 + n)) else none

/-- The bytes that are spelled. A sign without two digits stands for itself. -/
def unescape : List UInt8 → List UInt8
  | sign :: high :: low :: rest =>
    match escaped? sign high low with
    | some byte => byte :: unescape rest
    | none => sign :: unescape (high :: low :: rest)
  | bytes => bytes

/-- A label as it is read. One spelled in ASCII must need it, and be folded and normal. -/
def read? (label : List Char) : Option (List Char) :=
  if label.take 4 = "xn--".toList then
    let spelling := label.drop 4
    if spelling.length ≤ 2000 then
      (Punycode.decode? spelling).filter fun read =>
        read.any (0x80 ≤ ·.toNat) && read.all isFolded && Text.normalize read == read
    else none
  else some label

/-- Whether a label may stand in a name. Beyond ASCII its length is limited. -/
def isSound (label : List Char) : Bool :=
  !label.head?.any isMark && joinersStand [] label &&
    (label.length ≤ 1000 || label.all (·.toNat < 0x80))

/-- A label in ASCII. -/
def spell (label : List Char) : List Char :=
  if label.all (·.toNat < 0x80) then label else "xn--".toList ++ Punycode.encode label

/-- A name in folded form and in ASCII, unless it is none. -/
def fold? (host : List Char) : Option (List Char) := do
  let text := Text.Utf8.decodeLossy (unescape (Text.Utf8.encode (String.ofList host)))
  let folded := Text.normalize (← text.mapM Uri.fold?).flatten
  let labels ← (pieces '.' folded).mapM read?
  if !folded.any isBarred && labels.all isSound &&
      (!labels.any isBidirectional || labels.all isOneWay) then
    some (['.'].intercalate ((pieces '.' folded).map spell))
  else none

end ApiBlueprint.Uri.Domain
