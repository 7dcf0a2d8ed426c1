/-! Binary floating-point numbers of 53 bits, computed exactly on natural numbers. Every operation
rounds the exact quotient to the nearest number, and to the even one of two that are equally
near. -/
namespace LexScan.Decimal

/-- The number `significand * 2 ^ exponent`. -/
structure Binary where
  significand : Nat
  exponent : Int
deriving DecidableEq, Repr

/-- The integer nearest to a quotient, the even one of two. -/
def nearest (num den : Nat) : Nat :=
  let whole := num / den
  let twice := 2 * (num % den)
  if den < twice || (twice == den && whole % 2 == 1) then whole + 1 else whole

def powerOfTwo (power : Nat) : Nat := Nat.pow 2 power

def powerOfTen (power : Nat) : Nat := Nat.pow 10 power

namespace Binary

/-- Significands lie below this number. -/
def significandBound : Nat := powerOfTwo 53

/-- The exponent of the smallest positive number. -/
def minExponent : Int := -1074

/-- The exponent of the largest number. -/
def maxExponent : Int := 971

def zero : Binary := ⟨0, minExponent⟩

/-- The quotient `num / den` divided by a power of two. -/
def shifted (num den : Nat) (exponent : Int) : Nat × Nat :=
  (num * powerOfTwo (-exponent).toNat, den * powerOfTwo exponent.toNat)

/-- The exponent at which a quotient has 53 bits before the point, or the least exponent. -/
def exponentOf (num den : Nat) : Int :=
  let guess : Int := (num.log2 : Int) - den.log2 - 53
  let quotient := shifted num den guess
  max minExponent (if quotient.1 / quotient.2 < significandBound then guess else guess + 1)

/-- The number nearest to a quotient, of whatever size. -/
def round (num den : Nat) : Binary :=
  if num = 0 then zero
  else
    let exponent := exponentOf num den
    let quotient := shifted num den exponent
    let significand := nearest quotient.1 quotient.2
    if significand = significandBound then ⟨significandBound / 2, exponent + 1⟩
    else ⟨significand, exponent⟩

/-- A number too large to be represented. -/
def isTooLarge (x : Binary) : Bool := maxExponent < x.exponent

def isZero (x : Binary) : Bool := x.significand == 0

def num (x : Binary) : Nat := x.significand * powerOfTwo x.exponent.toNat

def den (x : Binary) : Nat := powerOfTwo (-x.exponent).toNat

def times (x y : Binary) : Binary := round (x.num * y.num) (x.den * y.den)

def dividedBy (x y : Binary) : Binary := round (x.num * y.den) (x.den * y.num)

/-- The number nearest to a power of ten. -/
def tenTo (power : Nat) : Binary := round (powerOfTen power) 1

/-- The largest power of ten that is represented. -/
def maxTenPower : Nat := 308

/-- Divides by a power of ten, in pieces if the power is not represented. -/
def overTenTo (x : Binary) (power : Nat) : Binary :=
  if power ≤ maxTenPower then x.dividedBy (tenTo power)
  else if x.isZero then x
  else overTenTo (x.dividedBy (tenTo maxTenPower)) (power - maxTenPower)
termination_by power
decreasing_by simp only [maxTenPower] at *; omega

/-- Multiplies by a power of ten, unless the result is too large. -/
def timesTenTo? (x : Binary) (power : Nat) : Option Binary :=
  if power ≤ maxTenPower then
    let product := x.times (tenTo power)
    if product.isTooLarge then none else some product
  else if x.isZero then some x
  else none

/-- Scales by a power of ten with a sign. -/
def scale? (x : Binary) (power : Int) : Option Binary :=
  match power with
  | .ofNat power => x.timesTenTo? power
  | .negSucc power => some (x.overTenTo (power + 1))

end Binary
end LexScan.Decimal
