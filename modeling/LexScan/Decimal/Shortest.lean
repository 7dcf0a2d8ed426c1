import LexScan.Decimal.Binary

/-! The shortest decimal of a binary number: the fewest digits that round back to it, and of those
the nearest, with an even last digit if two are equally near. -/
namespace LexScan.Decimal

/-- The number `digits * 10 ^ power`. -/
structure Scaled where
  digits : Nat
  power : Int
deriving DecidableEq, Repr

namespace Scaled

def num (x : Scaled) : Nat := x.digits * powerOfTen x.power.toNat

def den (x : Scaled) : Nat := powerOfTen (-x.power).toNat

/-- Whether a decimal is read as a given binary number. -/
def roundsTo (x : Scaled) (target : Binary) : Bool := Binary.round x.num x.den == target

/-- The distance from a binary number, over a denominator that all decimals of one power share. -/
def distance (x : Scaled) (target : Binary) : Nat :=
  let left := x.num * target.den
  let right := target.num * x.den
  max left right - min left right

/-- Drops zeros at the end of the digits. -/
def trimmed (x : Scaled) : Scaled :=
  if x.digits ≠ 0 ∧ x.digits % 10 = 0 then trimmed ⟨x.digits / 10, x.power + 1⟩ else x
termination_by x.digits
decreasing_by omega

end Scaled

/-- More than the number of zeros behind the point of any binary number. -/
def leadingRoom : Nat := 400

/-- The power of ten of the first decimal digit. -/
def leadingPower (x : Binary) : Int :=
  ((Nat.toDigits 10 (x.num * powerOfTen leadingRoom / x.den)).length : Int) - 1 - leadingRoom

/-- The better of the two neighbours among decimals with a given last power, if one rounds back. -/
def neighbour? (x : Binary) (power : Int) : Option Scaled :=
  let below : Scaled :=
    ⟨x.num * powerOfTen (-power).toNat / (x.den * powerOfTen power.toNat), power⟩
  let above : Scaled := ⟨below.digits + 1, power⟩
  match below.roundsTo x, above.roundsTo x with
  | true, true =>
      if below.distance x < above.distance x then some below
      else if above.distance x < below.distance x then some above
      else if below.digits % 2 = 0 then some below
      else some above
  | true, false => some below
  | false, true => some above
  | false, false => none

/-- Seventeen digits are always enough. -/
def maxDigits : Nat := 17

def shortest (x : Binary) : Scaled :=
  let leading := leadingPower x
  let found := (List.range maxDigits).findSome? fun more => neighbour? x (leading - (more : Nat))
  (found.getD ⟨0, 0⟩).trimmed

end LexScan.Decimal
