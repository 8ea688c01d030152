import HostScript.Binary64.Decimal

/-!
# JSON trees

A tree keeps what a reader of the text can tell apart: whether a number was written as an integer,
and every entry of an object in the order of the text, repeated keys included.
-/

namespace HostScript

/-- A number of a JSON text: an integer of at most 64 bits, or a double. -/
inductive Json.Number where
  | integer (value : Int)
  | float (value : Binary64)
deriving DecidableEq, Repr

/-- A JSON tree. -/
inductive Json where
  | null
  | boolean (value : Bool)
  | number (value : Json.Number)
  | string (value : String)
  | array (items : List Json)
  | object (entries : List (String × Json))
deriving Inhabited, Repr

namespace Json

/-- The double that a number of a text stands for. -/
def Number.toBinary64 : Number → Binary64
  | .integer value => .ofInt value
  | .float value => value

/-- The largest integer below which every whole double is written as an integer. -/
def largestInteger : Nat := 2 ^ 53 - 1

/-- The number as which a double is written: whole numbers of moderate size are integers, and all
other numbers are floats. -/
def Number.ofBinary64 (number : Binary64) : Number :=
  match number.toInt? with
  | some whole => if whole.natAbs ≤ largestInteger then .integer whole else .float number
  | none => .float number

/-- A double as JSON: a number if it is finite, and null if it has no decimal text. -/
def ofBinary64 (number : Binary64) : Json :=
  match number with
  | .finite _ _ => .number (.ofBinary64 number)
  | _ => .null

end Json

end HostScript
