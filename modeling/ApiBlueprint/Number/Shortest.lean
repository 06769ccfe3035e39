import ApiBlueprint.Number.Binary64

/-! The shortest decimal of a binary number: the fewest digits that read back to it. -/
namespace ApiBlueprint.Number

/-- The decimal `digits · 10 ^ exponent`. -/
structure Decimal where
  digits : Nat
  exponent : Int
  deriving DecidableEq, Repr

def compareRatio (a b c d : Nat) : Ordering := compare (a * d) (c * b)

/-- A decimal as a fraction, so that all tests are exact. -/
def Decimal.ratio (x : Decimal) : Nat × Nat :=
  if 0 ≤ x.exponent then (x.digits * Nat.pow 10 x.exponent.toNat, 1)
  else (x.digits, Nat.pow 10 (-x.exponent).toNat)

namespace Binary64

/-- Whether the decimal lies among the reals that round to the positive number `x`. The lower
half-gap is smaller when the significand is a power of two, and the ends count when the
significand is even. -/
def readsBack (x : Binary64) (dec : Decimal) : Bool :=
  let m := x.significand
  let narrow := m == 0x10000000000000 && x.exponent != minExponent
  let (low, lowDen) := scaleTwo (if narrow then 4 * m - 1 else 4 * m - 2) 4 x.exponent
  let (high, highDen) := scaleTwo (4 * m + 2) 4 x.exponent
  let (n, d) := dec.ratio
  let above := compareRatio low lowDen n d
  let below := compareRatio n d high highDen
  if m % 2 == 0 then above.isLE && below.isLE else above.isLT && below.isLT

/-- The greatest multiple of `10 ^ k` that is not above `x`, as a factor. -/
def gridBelow (x : Binary64) (k : Int) : Nat :=
  let (n, d) := scaleTwo x.significand 1 x.exponent
  let (n, d) := if 0 ≤ k then (n, d * Nat.pow 10 k.toNat) else (n * Nat.pow 10 (-k).toNat, d)
  n / d

/-- The neighbour of `x` on the grid of multiples of `10 ^ k` that reads back; the nearer one if
both do, and the even one on a tie. -/
def onGrid (x : Binary64) (k : Int) : Option Decimal :=
  let low := x.gridBelow k
  let a : Decimal := ⟨low, k⟩
  let b : Decimal := ⟨low + 1, k⟩
  match x.readsBack a, x.readsBack b with
  | true, false => some a
  | false, true => some b
  | false, false => none
  | true, true =>
    let (n, d) := scaleTwo x.significand 1 x.exponent
    let (am, ad) := a.ratio
    let (bm, bd) := b.ratio
    match compareRatio (2 * n) d (am * bd + bm * ad) (ad * bd) with
    | .lt => some a
    | .gt => some b
    | .eq => some (if low % 2 == 0 then a else b)

def decimalOrder (x : Binary64) : Int :=
  let (n, d) := scaleTwo x.significand 1 x.exponent
  if d ≤ n then Int.ofNat ((toString (n / d)).length - 1)
  else -Int.ofNat (toString ((d - 1) / n)).length

/-- Coarsest grid first; seventeen digits always suffice. -/
def shortest (x : Binary64) : Decimal :=
  let order := x.decimalOrder
  let grids := (List.range 17).map fun i => order - Int.ofNat i
  (grids.findSome? x.onGrid).getD ⟨x.gridBelow (order - 16), order - 16⟩

end Binary64

/-- The digits without the zeros at their end, and the number of them before the point. A
negative number of digits stands for zeros after the point. -/
def Decimal.layout (x : Decimal) : List Char × Int :=
  let digits := (toString x.digits).toList
  ((digits.reverse.dropWhile (· == '0')).reverse, Int.ofNat digits.length + x.exponent)

end ApiBlueprint.Number
