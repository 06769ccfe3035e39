/-! The spelling of a label in ASCII: its ASCII characters, a hyphen if there are any, and then, as
numbers in digits of varying weight, which other characters to insert and where. -/
namespace ApiBlueprint.Uri.Punycode

def digit? (c : Char) : Option Nat :=
  if c.isLower then some (c.toNat - 'a'.toNat)
  else if c.isDigit then some (c.toNat - '0'.toNat + 26)
  else none

/-- A digit below its threshold ends a number. -/
def threshold (place bias : Nat) : Nat := max 1 (min 26 (place - bias))

/-- Scale a distance down, counting the steps by 36. -/
def scaleDown (distance steps : Nat) : Nat × Nat :=
  if 455 < distance then scaleDown (distance / 35) (steps + 36) else (distance, steps)
termination_by distance

/-- The bias after a distance was read in a text that now has `size` characters. -/
def adapt (distance size : Nat) (isFirst : Bool) : Nat :=
  let distance := if isFirst then distance / 700 else distance / 2
  let (distance, steps) := scaleDown (distance + distance / size) 0
  steps + 36 * distance / (distance + 38)

/-- A reader between two digits. `code` and `index` name the character to insert next and its place,
and `start` is the place after the one inserted last. -/
structure State where
  text : List Char
  code : Nat := 128
  index : Nat := 0
  start : Nat := 0
  weight : Nat := 1
  place : Nat := 36
  bias : Nat := 72
  deriving DecidableEq, Repr

/-- Read a digit. The last one of a number inserts a character, which must exist. Weights have 32
bits. -/
def State.feed? (s : State) (c : Char) : Option State :=
  match digit? c with
  | none => none
  | some digit =>
    let index := s.index + digit * s.weight
    let limit := threshold s.place s.bias
    if digit < limit then
      let size := s.text.length + 1
      let code := s.code + index / size
      let place := index % size
      if code.isValidChar then
        some {
          text := s.text.insertIdx place (Char.ofNat code)
          code
          index := place + 1
          start := place + 1
          bias := adapt (index - s.start) size (s.start == 0) }
      else none
    else
      let weight := s.weight * (36 - limit)
      if weight < 0x100000000 then some { s with index, weight, place := s.place + 36 } else none

/-- The label that is spelled, if the spelling is complete. -/
def decode? (spelling : List Char) : Option (List Char) :=
  let digits := (spelling.reverse.takeWhile (· ≠ '-')).reverse
  let plain := spelling.take (spelling.length - digits.length - 1)
  let digits := if plain.isEmpty then spelling else digits
  if plain.all fun c => c.toNat < 0x80 then
    match digits.foldlM State.feed? { text := plain } with
    | some s => if s.place = 36 then some s.text else none
    | none => none
  else none

/-! Spelling. -/

def digitChar (n : Nat) : Char :=
  if n < 26 then Char.ofNat (n + 'a'.toNat) else Char.ofNat (n - 26 + '0'.toNat)

/-- A number in digits, lowest first, of which only the last is below its threshold. -/
def digits (bias place n : Nat) : List Char :=
  let limit := threshold place bias
  if n < limit then [digitChar n]
  else
    digitChar (limit + (n - limit) % (36 - limit)) ::
      digits bias (place + 36) ((n - limit) / (36 - limit))
termination_by n
decreasing_by
  have hlimit : 1 ≤ threshold place bias := Nat.le_max_left ..
  exact Nat.lt_of_le_of_lt (Nat.div_le_self ..) (by omega)

/-- A writer that goes through a label once for each of its characters beyond ASCII. `distance` is
how far it has come since it wrote the last of them, and `count` how many characters are spelled. -/
structure Writer where
  spelling : List Char := []
  distance : Nat := 0
  bias : Nat := 72
  count : Nat
  deriving DecidableEq, Repr

/-- Pass a character of a label with `plain` characters in ASCII, on the way to `code`. -/
def Writer.pass (plain code : Nat) (w : Writer) (c : Char) : Writer :=
  if c.toNat < code then { w with distance := w.distance + 1 }
  else if c.toNat = code then
    { spelling := w.spelling ++ digits w.bias 36 w.distance
      bias := adapt w.distance (w.count + 1) (w.count == plain)
      count := w.count + 1 }
  else w

/-- Write all that have one code. `next` is the code after the last one written. -/
def Writer.write (label : List Char) (plain : Nat) (w : Writer × Nat) (code : Nat) : Writer × Nat :=
  let (w, next) := w
  let w := label.foldl (pass plain code)
    { w with distance := w.distance + (code - next) * (w.count + 1) }
  ({ w with distance := w.distance + 1 }, code + 1)

def encode (label : List Char) : List Char :=
  let (plain, others) := label.partition (·.toNat < 0x80)
  let codes := ((others.map Char.toNat).mergeSort fun m n => decide (m ≤ n)).eraseDups
  let (w, _) := codes.foldl (Writer.write label plain.length) ({ count := plain.length }, 128)
  plain ++ (if plain.isEmpty then [] else ['-']) ++ w.spelling

end ApiBlueprint.Uri.Punycode
