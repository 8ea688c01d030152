import HostScript.Binary64.Decimal

/-!
# Decimals read in few steps

`approximate` reads a decimal with one multiplication or division of doubles. The digits are
rounded, the power of ten is rounded, and so is their product or quotient. The result is the nearest
double if the digits and the power are exact; otherwise it can be a double next to it, and a decimal
at the end of the range can fall out of it.
-/

namespace HostScript.Binary64

/-- The double nearest to a power of ten. -/
def powerOfTen (power : Nat) : Binary64 :=
  ofDecimal false ⟨1, power⟩

/-- The power of the largest power of ten that is in the range of doubles. -/
def largestPower : Nat := 308

/-- Divides by the largest power of ten as often as told, or until nothing is left. -/
def shrink : (count : Nat) → Binary64 → Binary64
  | 0, value => value
  | count + 1, value =>
    if value.isZero then value else shrink count (value / powerOfTen largestPower)

/-- A decimal of the given sign, each step rounded. With a power of ten that is too large it is out
of range unless it is zero, and by one that is too large it is divided in several steps. -/
def approximate (negative : Bool) (decimal : Decimal) : Binary64 :=
  let digits := ofNat decimal.digits
  let magnitude :=
    match decimal.exponent with
    | .ofNat power =>
      if power ≤ largestPower then digits * powerOfTen power
      else if digits.isZero then digits
      else .infinite false
    | .negSucc less =>
      shrink (less / largestPower) digits / powerOfTen (less % largestPower + 1)
  if negative then -magnitude else magnitude

end HostScript.Binary64
