/-!
# Binary64 numbers

The numbers of the language are IEEE 754 doubles. A finite double is stored as a sign together
with the rank of its magnitude: the finite magnitudes are numbered from zero in increasing
order, so that comparing magnitudes is comparing ranks and the two zeros are the two signs of
rank zero. Every finite magnitude is a whole number of units of `2 ^ -1074`, which `scaled`
computes, and `ofRatio` rounds an exact ratio of such units to the nearest double, a tie going
to the even rank. The values that are not numbers have a sign and a rank too, which is that of
their bits among the values of their kind.
-/

namespace HostScript

-- Powers of natural numbers compute here, also where a library brings in powers of a monoid. A
-- default instance has no scope, and without one an exponent that is a numeral would take the
-- powers of the monoid.
attribute [scoped instance (2000)] instPowNat
attribute [default_instance 20000] instPowNat

/-- A double: a finite number as its sign and the rank of its magnitude, an infinity, or a value
that is not a number as its sign and the rank of its bits. Where no value that is not a number is
named it is the positive quiet one with no other bit set. -/
inductive Binary64 where
  | nan (negative : Bool := false) (rank : Fin (2 ^ 52 - 1) := ⟨2 ^ 51 - 1, by decide⟩)
  | infinite (negative : Bool)
  | finite (negative : Bool) (rank : Fin (2047 * 2 ^ 52))
deriving DecidableEq, Repr

namespace Binary64

/-- The zero of the given sign. -/
def zero (negative : Bool) : Binary64 :=
  .finite negative ⟨0, by decide⟩

instance : Inhabited Binary64 := ⟨zero false⟩

/-- Neither an infinity nor a value that is not a number. -/
def isFinite : Binary64 → Bool
  | .finite _ _ => true
  | _ => false

/-- A value that is not a number. -/
def isNaN : Binary64 → Bool
  | .nan _ _ => true
  | _ => false

/-- A zero of either sign. -/
def isZero : Binary64 → Bool
  | .finite _ rank => rank.val == 0
  | _ => false

/-- The zero of negative sign. -/
def isNegativeZero : Binary64 → Bool
  | .finite true rank => rank.val == 0
  | _ => false

/-- The magnitude of a rank in units of `2 ^ -1074`. The first `2 ^ 52` ranks are one unit apart;
after them each block of `2 ^ 52` ranks doubles the step. -/
def scaled (rank : Nat) : Nat :=
  if rank < 2 ^ 52 then rank
  else (2 ^ 52 + rank % 2 ^ 52) * 2 ^ (rank / 2 ^ 52 - 1)

/-- The value of a signed rank in units of `2 ^ -1074`. -/
def signedScaled (negative : Bool) (rank : Nat) : Int :=
  if negative then -(scaled rank : Int) else scaled rank

/-- The whole number nearest to a ratio, a tie going to the even one. -/
def roundHalfEven (numerator denominator : Nat) : Nat :=
  let quotient := numerator / denominator
  let excess := 2 * (numerator % denominator)
  if excess < denominator ∨ (excess = denominator ∧ quotient % 2 = 0) then quotient
  else quotient + 1

/-- The rank nearest to a ratio of units. A ratio of at least `2 ^ 53` units is first divided by
the step of its block, so that 53 significant bits are kept; a significand that rounds up to
`2 ^ 53` lands on the first rank of the next block. The rank is not bounded here. -/
def nearestRank (numerator denominator : Nat) : Nat :=
  let block := (numerator / denominator).log2 - 52
  block * 2 ^ 52 + roundHalfEven numerator (denominator * 2 ^ block)

/-- The double nearest to a ratio of units of `2 ^ -1074`, an infinity when the ratio is out of
range. -/
def ofRatio (negative : Bool) (numerator denominator : Nat) : Binary64 :=
  if inRange : nearestRank numerator denominator < 2047 * 2 ^ 52 then
    .finite negative ⟨nearestRank numerator denominator, inRange⟩
  else
    .infinite negative

/-- The number of units of `2 ^ -1074` in one. -/
def unitsPerOne : Nat := 2 ^ 1074

/-- The double nearest to a natural number. -/
def ofNat (number : Nat) : Binary64 :=
  ofRatio false (number * unitsPerOne) 1

/-- The double nearest to an integer; zero is the positive zero. -/
def ofInt (number : Int) : Binary64 :=
  ofRatio (decide (number < 0)) (number.natAbs * unitsPerOne) 1

instance (number : Nat) : OfNat Binary64 number := ⟨ofNat number⟩

/-- The integer that a finite double is, if it is whole. -/
def toInt? : Binary64 → Option Int
  | .finite negative rank =>
    if scaled rank.val % unitsPerOne = 0 then
      let whole : Int := (scaled rank.val / unitsPerOne : Nat)
      some (if negative then -whole else whole)
    else none
  | _ => none

end Binary64

end HostScript
