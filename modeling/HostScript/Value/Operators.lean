import HostScript.RunError

/-!
# Binary operators on values

Equality and the logical operators take any values; addition also joins strings; the other
arithmetic operators take numbers; the ordering operators take two numbers or two strings, and a
number that is not a number is in no order.
-/

namespace HostScript

/-- The order of two numbers or of two strings. -/
def Value.compare? : Value → Value → Option (Option Ordering)
  | .number left, .number right => some (left.compare? right)
  | .string left, .string right => some (some (compare left right))
  | _, _ => none

namespace Operator

/-- The error for operands that an operator does not take. -/
def mismatch (operator : Operator) (left right : Value) : RunError :=
  .typeMismatch operator left.kind right.kind

/-- Applies an operation on numbers. -/
def arithmetic (operator : Operator) (operation : Binary64 → Binary64 → Binary64) :
    Value → Value → Except RunError Value
  | .number left, .number right => .ok (.number (operation left right))
  | left, right => .error (operator.mismatch left right)

/-- Adds numbers or joins strings. -/
def addition : Value → Value → Except RunError Value
  | .number left, .number right => .ok (.number (left + right))
  | .string left, .string right => .ok (.string (left ++ right))
  | left, right => .error (Operator.add.mismatch left right)

/-- Tests the order of two numbers or two strings. -/
def ordering (operator : Operator) (test : Ordering → Bool) (left right : Value) :
    Except RunError Value :=
  match left.compare? right with
  | some order => .ok (.boolean (order.any test))
  | none => .error (operator.mismatch left right)

/-- The result of an operator. -/
def apply (operator : Operator) (left right : Value) : Except RunError Value :=
  match operator with
  | .equal => .ok (.boolean (left.equals right))
  | .notEqual => .ok (.boolean (!left.equals right))
  | .and => .ok (.boolean (left.isTruthy && right.isTruthy))
  | .or => .ok (.boolean (left.isTruthy || right.isTruthy))
  | .add => addition left right
  | .subtract => operator.arithmetic (· - ·) left right
  | .multiply => operator.arithmetic (· * ·) left right
  | .divide => operator.arithmetic (· / ·) left right
  | .less => operator.ordering Ordering.isLT left right
  | .lessEqual => operator.ordering Ordering.isLE left right
  | .greater => operator.ordering Ordering.isGT left right
  | .greaterEqual => operator.ordering Ordering.isGE left right

end Operator

end HostScript
