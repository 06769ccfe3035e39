import ApiBlueprint.Text.Combining
import ApiBlueprint.Text.Composite

/-! One spelling for texts that look the same: marks stand in the order of their classes, and a
letter with a mark is one character where there is one. Characters that never stand in such a
spelling, as a composite that is always written in parts, are left alone: folding replaces them. -/
namespace ApiBlueprint.Text

/-- The parts of a Hangul syllable: a pair of letters, or such a pair and a final. -/
def hangulParts? (n : Nat) : Option (Nat × Nat) :=
  if 0xAC00 ≤ n ∧ n < 0xAC00 + 11172 then
    let index := n - 0xAC00
    if index % 28 = 0 then some (0x1100 + index / 588, 0x1161 + index / 28 % 21)
    else some (n - index % 28, 0x11A7 + index % 28)
  else none

/-- The syllable of two parts, if they make one. -/
def hangulOf? (a b : Nat) : Option Nat :=
  if 0x1100 ≤ a ∧ a < 0x1113 ∧ 0x1161 ≤ b ∧ b < 0x1176 then
    some (0xAC00 + ((a - 0x1100) * 21 + (b - 0x1161)) * 28)
  else if (hangulParts? a).isSome ∧ (a - 0xAC00) % 28 = 0 ∧ 0x11A7 < b ∧ b < 0x11C3 then
    some (a + (b - 0x11A7))
  else none

def composites : List (Nat × Nat × Nat) := compositesLow ++ compositesHigh

/-- What a composite is made of. -/
def parts? (n : Nat) : Option (Nat × Nat) := (hangulParts? n).or (composites.lookup n)

/-- The composite of a letter and a mark. -/
def composite? (a b : Nat) : Option Nat :=
  (hangulOf? a b).or ((composites.find? fun entry => entry.2 == (a, b)).map (·.1))

/-- The letter and the marks of a character, in at most `depth` steps. -/
def decompose : Nat → Nat → List Char
  | 0, n => [Char.ofNat n]
  | depth + 1, n =>
    match parts? n with
    | some (a, b) => decompose depth a ++ [Char.ofNat b]
    | none => [Char.ofNat n]

/-- Put a mark behind those of its class and of lower ones. -/
def insertMark (c : Char) : List Char → List Char
  | [] => [c]
  | m :: marks =>
    if combiningClass c < combiningClass m then c :: m :: marks else m :: insertMark c marks

/-- Sort the marks between letters by class; `marks` are those since the last letter. -/
def arrange (marks : List Char) : List Char → List Char
  | [] => marks
  | c :: rest =>
    if combiningClass c = 0 then marks ++ c :: arrange [] rest
    else arrange (insertMark c marks) rest

/-- Join a letter with the marks after it. The marks that stay apart are listed last first, and one
of them keeps a later one of its class, or of none, from the letter. -/
def recompose (letter : Char) (marks : List Char) : List Char → List Char
  | [] => letter :: marks.reverse
  | c :: rest =>
    let isCut : Bool := marks.head?.any fun m => combiningClass c ≤ combiningClass m
    match if isCut then none else composite? letter.toNat c.toNat with
    | some joined => recompose (Char.ofNat joined) marks rest
    | none =>
      if combiningClass c = 0 then letter :: marks.reverse ++ recompose c [] rest
      else recompose letter (c :: marks) rest

/-- The normal spelling of a text. No character is built in more than three steps. -/
def normalize (text : List Char) : List Char :=
  let sorted := arrange [] (text.flatMap fun c => decompose 3 c.toNat)
  let leading := sorted.takeWhile fun c => combiningClass c != 0
  match sorted.drop leading.length with
  | [] => leading
  | letter :: rest => leading ++ recompose letter [] rest

end ApiBlueprint.Text
