import HostScript.Binary64.Arithmetic
import HostScript.Dictionary

/-!
# Values

The values that programs compute with. Literals give numbers, strings, truth values and arrays; the
missing value and objects come from host functions, from the context, or from reading a property
that an object lacks. The entries of an object are in increasing order of their keys.
-/

namespace HostScript

/-- A value. -/
inductive Value where
  | null
  | boolean (value : Bool)
  | number (value : Binary64)
  | string (value : String)
  | array (items : List Value)
  | object (entries : List (String × Value))
deriving Inhabited, Repr

/-- The kinds of values, as messages and programs name them. -/
inductive Kind where
  | null
  | boolean
  | number
  | string
  | array
  | object
deriving DecidableEq, Repr

/-- The name of a kind. -/
def Kind.name : Kind → String
  | .null => "null"
  | .boolean => "boolean"
  | .number => "number"
  | .string => "string"
  | .array => "array"
  | .object => "object"

namespace Value

/-- The kind of a value. -/
def kind : Value → Kind
  | .null => .null
  | .boolean _ => .boolean
  | .number _ => .number
  | .string _ => .string
  | .array _ => .array
  | .object _ => .object

/-- Whether a value counts as true in a test. The missing value, false, zero, a number that is not
a number and the empty string do not. -/
def isTruthy : Value → Bool
  | .null => false
  | .boolean value => value
  | .number value => !value.isZero && !value.isNaN
  | .string value => !value.isEmpty
  | .array _ => true
  | .object _ => true

/-- Whether a value is the missing value. -/
def isNull : Value → Bool
  | .null => true
  | _ => false

/-- The number that a value is. -/
def number? : Value → Option Binary64
  | .number value => some value
  | _ => none

/-- The string that a value is. -/
def string? : Value → Option String
  | .string value => some value
  | _ => none

/-- The truth value that a value is. -/
def boolean? : Value → Option Bool
  | .boolean value => some value
  | _ => none

/-- The items of an array. -/
def array? : Value → Option (List Value)
  | .array items => some items
  | _ => none

/-- The entries of an object. -/
def object? : Value → Option (List (String × Value))
  | .object entries => some entries
  | _ => none

mutual

/-- Equality of values, numbers being compared by value. -/
def equals : Value → Value → Bool
  | .null, .null => true
  | .boolean left, .boolean right => left == right
  | .number left, .number right => left.equals right
  | .string left, .string right => left == right
  | .array left, .array right => listEquals left right
  | .object left, .object right => entriesEqual left right
  | _, _ => false

/-- Equality of lists item by item. -/
def listEquals : List Value → List Value → Bool
  | [], [] => true
  | left :: lefts, right :: rights => equals left right && listEquals lefts rights
  | _, _ => false

/-- Equality of entries one by one. -/
def entriesEqual : List (String × Value) → List (String × Value) → Bool
  | [], [] => true
  | (leftKey, left) :: lefts, (rightKey, right) :: rights =>
    leftKey == rightKey && equals left right && entriesEqual lefts rights
  | _, _ => false

end

mutual

/-- The entries of every object inside a value are in strictly increasing order of their keys. -/
def WellFormed : Value → Prop
  | .array items => ListWellFormed items
  | .object entries => Entries.Sorted entries ∧ EntriesWellFormed entries
  | _ => True

/-- Every item is well formed. -/
def ListWellFormed : List Value → Prop
  | [] => True
  | item :: items => WellFormed item ∧ ListWellFormed items

/-- Every value of an entry is well formed. -/
def EntriesWellFormed : List (String × Value) → Prop
  | [] => True
  | (_, value) :: entries => WellFormed value ∧ EntriesWellFormed entries

end

end Value

end HostScript
