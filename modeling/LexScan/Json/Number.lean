import LexScan.Decimal.Shortest

/-! The numbers of JSON texts that settings are read from: natural numbers and negative integers of
64 bits, and binary fractions for all others. -/
namespace LexScan.Json

inductive Number where
  | natural (value : Nat)
  /-- An integer below zero, given by its size. -/
  | negative (size : Nat)
  | fraction (isNegative : Bool) (size : Decimal.Binary)
deriving DecidableEq, Repr

namespace Number

/-- Powers of ten from which on, and down to which, a fraction is written without an exponent. -/
def positionalFrom : Int := -5

def positionalTo : Int := 15

def zeros (n : Nat) : List Char := List.replicate n '0'

/-- The exponent always has a sign and no leading zeros. -/
def exponentText (power : Int) : List Char :=
  'e' :: (if power < 0 then '-' else '+') :: Nat.toDigits 10 power.natAbs

/-- Decimal digits with the power of ten of the first one. -/
def digitsText (digits : List Char) (power : Int) : List Char :=
  if positionalFrom ≤ power && power ≤ positionalTo then
    if power < 0 then '0' :: '.' :: zeros ((-power).toNat - 1) ++ digits
    else if digits.length ≤ power.toNat + 1 then
      digits ++ zeros (power.toNat + 1 - digits.length) ++ ['.', '0']
    else digits.take (power.toNat + 1) ++ '.' :: digits.drop (power.toNat + 1)
  else
    match digits with
    | [] => []
    | [digit] => digit :: exponentText power
    | digit :: more => digit :: '.' :: more ++ exponentText power

/-- The shortest decimal of a fraction, with at least one digit behind the point. -/
def fractionText (size : Decimal.Binary) : List Char :=
  if size.isZero then ['0', '.', '0']
  else
    let decimal := Decimal.shortest size
    let digits := Nat.toDigits 10 decimal.digits
    digitsText digits (decimal.power + digits.length - 1)

def isFraction : Number → Bool
  | .fraction _ _ => true
  | _ => false

def text : Number → String
  | .natural value => toString value
  | .negative size => "-" ++ toString size
  | .fraction true size => "-" ++ String.ofList (fractionText size)
  | .fraction false size => String.ofList (fractionText size)

end Number
end LexScan.Json
