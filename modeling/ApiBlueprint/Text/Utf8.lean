/-! Reading UTF-8. Bytes fall into pieces, each a character or a maximal piece that can start
none; a strict reader refuses the latter and a lossy one replaces each by U+FFFD. -/
namespace ApiBlueprint.Text.Utf8

/-- A character under way: the bits so far, the bytes still to come, and the interval the
next of them must lie in. -/
structure Pending where
  bits : Nat
  missing : Nat
  low : Nat
  high : Nat
  deriving DecidableEq, Repr

/-- What a byte means where a character may start. -/
inductive Lead where
  | whole (c : Char)
  | opens (pending : Pending)
  | broken
  deriving DecidableEq, Repr

/-- The narrowed intervals after E0, ED, F0 and F4 keep out overlong forms, surrogates and
values above U+10FFFF. -/
def lead (byte : UInt8) : Lead :=
  let n := byte.toNat
  if n < 0x80 then .whole (Char.ofNat n)
  else if n < 0xC2 then .broken
  else if n < 0xE0 then .opens ⟨n - 0xC0, 1, 0x80, 0xBF⟩
  else if n == 0xE0 then .opens ⟨0, 2, 0xA0, 0xBF⟩
  else if n == 0xED then .opens ⟨0xD, 2, 0x80, 0x9F⟩
  else if n < 0xF0 then .opens ⟨n - 0xE0, 2, 0x80, 0xBF⟩
  else if n == 0xF0 then .opens ⟨0, 3, 0x90, 0xBF⟩
  else if n < 0xF4 then .opens ⟨n - 0xF0, 3, 0x80, 0xBF⟩
  else if n == 0xF4 then .opens ⟨4, 3, 0x80, 0x8F⟩
  else .broken

/-- A reader between two bytes. Pieces are kept newest first; `none` is a broken one. -/
structure State where
  pending : Option Pending := none
  pieces : List (Option Char) := []
  deriving DecidableEq, Repr

namespace State

/-- Read a byte where a character may start. -/
def start (pieces : List (Option Char)) (byte : UInt8) : State :=
  match lead byte with
  | .whole c => ⟨none, some c :: pieces⟩
  | .opens pending => ⟨some pending, pieces⟩
  | .broken => ⟨none, none :: pieces⟩

/-- A byte that cannot continue the pending character closes it as broken and starts anew. -/
def feed (state : State) (byte : UInt8) : State :=
  match state.pending with
  | none => start state.pieces byte
  | some p =>
    if p.low ≤ byte.toNat ∧ byte.toNat ≤ p.high then
      let bits := p.bits * 64 + (byte.toNat - 0x80)
      if p.missing ≤ 1 then ⟨none, some (Char.ofNat bits) :: state.pieces⟩
      else ⟨some ⟨bits, p.missing - 1, 0x80, 0xBF⟩, state.pieces⟩
    else start (none :: state.pieces) byte

/-- The pieces in order, an unfinished character being broken. -/
def finish (state : State) : List (Option Char) :=
  (if state.pending.isSome then none :: state.pieces else state.pieces).reverse

end State

def pieces (bytes : List UInt8) : List (Option Char) := (bytes.foldl State.feed {}).finish

/-- The text, if every piece is a character. -/
def decode? (bytes : List UInt8) : Option String :=
  let read := pieces bytes
  if read.all Option.isSome then some (String.ofList (read.filterMap id)) else none

/-- The text with U+FFFD for each broken piece. -/
def decodeLossy (bytes : List UInt8) : List Char :=
  (pieces bytes).map fun piece => piece.getD (Char.ofNat 0xFFFD)

def encode (text : String) : List UInt8 := text.toUTF8.toList

end ApiBlueprint.Text.Utf8
