import HostScript.Binary64.Arithmetic

/-!
# Decimal reading and shortest decimal writing

`ofDecimal` is the double nearest to a decimal. `shortest` is the decimal of fewest digits that
`ofDecimal` reads back as the given magnitude, and of those the nearest to it; when no decimal of
at most seventeen digits reads back it is the exact decimal expansion, which always does.
-/

namespace HostScript

/-- The decimal `digits * 10 ^ exponent`. -/
structure Decimal where
  digits : Nat
  exponent : Int
deriving DecidableEq, Repr

namespace Binary64

/-- The double nearest to a decimal of the given sign. Decimals far outside the range are answered
before any power is formed. -/
def ofDecimal (negative : Bool) (decimal : Decimal) : Binary64 :=
  if decimal.digits = 0 then zero negative
  else if 400 < decimal.exponent then .infinite negative
  else if decimal.exponent < -(decimal.digits.log2 + 400 : Int) then zero negative
  else match decimal.exponent with
    | .ofNat power => ofRatio negative (decimal.digits * 10 ^ power * unitsPerOne) 1
    | .negSucc power => ofRatio negative (decimal.digits * unitsPerOne) (10 ^ (power + 1))

end Binary64

namespace Decimal

/-- The exact decimal expansion of a number of units of `2 ^ -1074`. -/
def exact (units : Nat) : Decimal :=
  ⟨units * 5 ^ 1074, -1074⟩

/-- The number of digits before the decimal point of a nonzero number of units, negative when the
number starts with zeros after the point. Every nonzero finite double has a digit among its first
330 places. -/
def pointPosition (units : Nat) : Int :=
  (Nat.toDigits 10 (units * 10 ^ 330 / 2 ^ 1074)).length - 330

/-- The largest multiple of `10 ^ exponent` that is not above a number of units, and whether it
is at most as far from that number as the next multiple; at equal distance the even one of the
two is the nearer. -/
def below (units : Nat) (exponent : Int) : Decimal × Bool :=
  let numerator := units * 10 ^ (-exponent).toNat
  let denominator := 2 ^ 1074 * 10 ^ exponent.toNat
  let digits := numerator / denominator
  (⟨digits, exponent⟩, Binary64.roundHalfEven numerator denominator == digits)

/-- The next decimal with the same count of significant digits; after all nines it is a power of
ten. -/
def above (count : Nat) (decimal : Decimal) : Decimal :=
  if decimal.digits + 1 = 10 ^ count then ⟨10 ^ (count - 1), decimal.exponent + 1⟩
  else ⟨decimal.digits + 1, decimal.exponent⟩

/-- Whether reading a decimal gives back the magnitude of the given rank. -/
def ReadsBack (rank : Fin (2047 * 2 ^ 52)) (decimal : Decimal) : Prop :=
  Binary64.ofDecimal false decimal = .finite false rank

instance (rank : Fin (2047 * 2 ^ 52)) (decimal : Decimal) : Decidable (ReadsBack rank decimal) :=
  inferInstanceAs (Decidable (_ = _))

/-- The decimal nearest to a magnitude among its neighbours with `count` significant digits, if
one of them reads back. -/
def ofLength? (rank : Fin (2047 * 2 ^ 52)) (point : Int) (count : Nat) : Option Decimal :=
  let (lower, lowerNearer) := below (Binary64.scaled rank.val) (point - count)
  let upper := above count lower
  let (nearer, farther) := if lowerNearer then (lower, upper) else (upper, lower)
  if ReadsBack rank nearer then some nearer
  else if ReadsBack rank farther then some farther
  else none

/-- The decimal of fewest digits that reads back as a nonzero magnitude. -/
def shortest (rank : Fin (2047 * 2 ^ 52)) : Decimal :=
  let units := Binary64.scaled rank.val
  let point := pointPosition units
  ((List.range 17).findSome? fun count => ofLength? rank point (count + 1)).getD (exact units)

/-- How a decimal is laid out as text: the digits alone with a point, or one digit before the point
and a signed power of ten. The position of the point decides. -/
def layout (decimal : Decimal) : List Char :=
  let digits := Nat.toDigits 10 decimal.digits
  let point : Int := digits.length + decimal.exponent
  if 0 < point ∧ point ≤ 16 then
    if point < digits.length then digits.take point.toNat ++ '.' :: digits.drop point.toNat
    else digits ++ List.replicate decimal.exponent.toNat '0' ++ ['.', '0']
  else if -5 < point ∧ point ≤ 0 then
    ['0', '.'] ++ List.replicate (-point).toNat '0' ++ digits
  else
    let fraction := if digits.length = 1 then [] else '.' :: digits.drop 1
    let sign := if point < 1 then '-' else '+'
    digits.take 1 ++ fraction ++ 'e' :: sign :: Nat.toDigits 10 (point - 1).natAbs

end Decimal

namespace Binary64

/-- The text of a double with the fewest digits that read back, always with a point or an
exponent. Only finite doubles have such a text. -/
def floatText? : Binary64 → Option (List Char)
  | .finite negative rank =>
    let decimal := if rank.val = 0 then ⟨0, 0⟩ else Decimal.shortest rank
    some (if negative then '-' :: decimal.layout else decimal.layout)
  | _ => none

end Binary64

end HostScript
