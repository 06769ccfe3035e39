/-! Finite binary floating-point numbers of 64 bits as exact dyadic values, with the three
operations decimal reading needs: rounding a quotient, product and quotient. -/
namespace ApiBlueprint.Number

/-- The value `± significand · 2 ^ exponent`. Zero keeps its sign. -/
structure Binary64 where
  negative : Bool
  significand : Nat
  exponent : Int
  deriving DecidableEq, Repr

/-- Nearest natural number to `num / den`, a half going to the even neighbour. -/
def roundDiv (num den : Nat) : Nat :=
  let q := num / den
  let twice := 2 * (num % den)
  if twice < den then q
  else if den < twice then q + 1
  else q + q % 2

/-- `num · 2 ^ k / den` as a fraction with natural parts. -/
def scaleTwo (num den : Nat) (k : Int) : Nat × Nat :=
  if 0 ≤ k then (num * Nat.pow 2 k.toNat, den) else (num, den * Nat.pow 2 (-k).toNat)

namespace Binary64

/-- Exponent of the least significant bit of a subnormal number. -/
def minExponent : Int := -1074

/-- Exponent of the least significant bit of the largest numbers. -/
def maxExponent : Int := 971

def zero (negative : Bool) : Binary64 := ⟨negative, 0, minExponent⟩

def isZero (x : Binary64) : Bool := x.significand == 0

/-- The greatest `k` with `2 ^ k ≤ num / den`, for positive parts. -/
def binaryOrder (num den : Nat) : Int :=
  let k : Int := Int.ofNat num.log2 - Int.ofNat den.log2
  let (n, d) := scaleTwo num den (-k)
  if d ≤ n then k else k - 1

/-- Nearest number to `num / den`, ties to the even significand. Nothing above the largest
finite number. -/
def ofRatio (num den : Nat) : Option Binary64 :=
  if num = 0 then some (zero false)
  else
    let e := max (binaryOrder num den - 52) minExponent
    let (n, d) := scaleTwo num den (-e)
    let m := roundDiv n d
    let (m, e) := if m = 0x20000000000000 then (0x10000000000000, e + 1) else (m, e)
    if maxExponent < e then none else some ⟨false, m, e⟩

def ofNat (n : Nat) : Option Binary64 := ofRatio n 1

def neg (x : Binary64) : Binary64 := { x with negative := !x.negative }

def mul (x y : Binary64) : Option Binary64 :=
  let (n, d) := scaleTwo (x.significand * y.significand) 1 (x.exponent + y.exponent)
  ofRatio n d

def div (x y : Binary64) : Option Binary64 :=
  let (n, d) := scaleTwo x.significand y.significand (x.exponent - y.exponent)
  ofRatio n d

def powTen (k : Nat) : Binary64 := (ofNat (Nat.pow 10 k)).getD (zero false)

/-- Magnitude times `10 ^ e`. The number was rounded before and is rounded again here, for
large negative `e` once per factor of `10 ^ 308`, so the result need not be the nearest one to
the decimal it was read from. Nothing when the result is too large. -/
def scaleTen (x : Binary64) (e : Int) : Option Binary64 :=
  if 0 ≤ e then
    if e ≤ 308 then x.mul (powTen e.toNat) else if x.isZero then some x else none
  else if -308 ≤ e then x.div (powTen (-e).toNat)
  else if x.isZero then some x
  else (x.div (powTen 308)).bind fun y => y.scaleTen (e + 308)
termination_by e.natAbs
decreasing_by omega

end Binary64
end ApiBlueprint.Number
