import HostScript.Binary64.Basic

/-!
# Arithmetic and order of binary64 numbers

Each operation is the exact result rounded once. Three comparisons are used by the language:
`equals` and `compare?` follow the numeric value, so the two zeros are equal and a value that
is not a number is unordered, while `totalOrder` separates the zeros and puts the values that are
not numbers at both ends.
-/

namespace HostScript.Binary64

/-- The number of the opposite sign. -/
def negate : Binary64 → Binary64
  | .nan negative rank => .nan (!negative) rank
  | .infinite negative => .infinite (!negative)
  | .finite negative rank => .finite (!negative) rank

/-- The double nearest to an exact sum of units; an exact zero takes the given sign. -/
def ofUnits (zeroSign : Bool) (units : Int) : Binary64 :=
  if units = 0 then zero zeroSign
  else ofRatio (decide (units < 0)) units.natAbs 1

/-- The rounded sum. Opposite infinities have no sum, and a zero sum is negative only when both
terms are negative zeros. -/
def add : Binary64 → Binary64 → Binary64
  | .nan _ _, _ => .nan
  | _, .nan _ _ => .nan
  | .infinite left, .infinite right => if left = right then .infinite left else .nan
  | .infinite left, .finite _ _ => .infinite left
  | .finite _ _, .infinite right => .infinite right
  | .finite leftSign left, .finite rightSign right =>
    ofUnits (leftSign && rightSign)
      (signedScaled leftSign left.val + signedScaled rightSign right.val)

/-- The rounded difference. -/
def sub (left right : Binary64) : Binary64 :=
  add left (negate right)

/-- The rounded product. A zero times an infinity has no value. -/
def mul : Binary64 → Binary64 → Binary64
  | .nan _ _, _ => .nan
  | _, .nan _ _ => .nan
  | .infinite left, .infinite right => .infinite (left ^^ right)
  | .infinite left, .finite right rank =>
    if rank.val = 0 then .nan else .infinite (left ^^ right)
  | .finite left rank, .infinite right =>
    if rank.val = 0 then .nan else .infinite (left ^^ right)
  | .finite leftSign left, .finite rightSign right =>
    ofRatio (leftSign ^^ rightSign) (scaled left.val * scaled right.val) unitsPerOne

/-- The rounded quotient. Dividing a nonzero number by zero is infinite; zero by zero and
infinity by infinity have no value. -/
def div : Binary64 → Binary64 → Binary64
  | .nan _ _, _ => .nan
  | _, .nan _ _ => .nan
  | .infinite _, .infinite _ => .nan
  | .infinite left, .finite right _ => .infinite (left ^^ right)
  | .finite left _, .infinite right => zero (left ^^ right)
  | .finite leftSign left, .finite rightSign right =>
    if right.val = 0 then
      if left.val = 0 then .nan else .infinite (leftSign ^^ rightSign)
    else
      ofRatio (leftSign ^^ rightSign) (scaled left.val * unitsPerOne) (scaled right.val)

instance : Add Binary64 := ⟨add⟩
instance : Sub Binary64 := ⟨sub⟩
instance : Mul Binary64 := ⟨mul⟩
instance : Div Binary64 := ⟨div⟩
instance : Neg Binary64 := ⟨negate⟩

/-- The rank of the magnitude, the infinities coming after every finite one, with the sign of the
number. Both zeros have position zero. -/
def position? : Binary64 → Option Int
  | .nan _ _ => none
  | .infinite negative => some (if negative then -(2047 * 2 ^ 52) else 2047 * 2 ^ 52)
  | .finite negative rank => some (if negative then -(rank.val : Int) else rank.val)

/-- Numeric comparison; nothing compares with a value that is not a number. -/
def compare? (left right : Binary64) : Option Ordering := do
  let leftPosition ← position? left
  let rightPosition ← position? right
  return compare leftPosition rightPosition

/-- Numeric equality: the zeros are equal, a value that is not a number differs from itself. -/
def equals (left right : Binary64) : Bool :=
  compare? left right == some .eq

/-- A place in the total order of all doubles: negative zero comes right before zero, and the
values that are not numbers come first or last by their sign, farther out the larger the rank. -/
def totalPosition : Binary64 → Int
  | .nan negative rank =>
    if negative then -(2047 * 2 ^ 52 + 1 + rank.val : Int) - 1 else 2047 * 2 ^ 52 + 1 + rank.val
  | .infinite negative => if negative then -(2047 * 2 ^ 52) - 1 else 2047 * 2 ^ 52
  | .finite negative rank => if negative then -(rank.val : Int) - 1 else rank.val

/-- Comparison of all doubles by their place in the total order. -/
def totalOrder (left right : Binary64) : Ordering :=
  compare (totalPosition left) (totalPosition right)

end HostScript.Binary64
