import HostScript.Json.Reader
import HostScript.Value.Basic

/-!
# Values as JSON

Values are written as JSON, where numbers that are not finite become null, and they are converted
to JSON trees and back. Reading a text gives the value of its tree, in which a later entry of an
object replaces an earlier one of the same key.
-/

namespace HostScript.Value

mutual

/-- The JSON tree of a value. -/
def toJson : Value → Json
  | .null => .null
  | .boolean value => .boolean value
  | .number value => .ofBinary64 value
  | .string value => .string value
  | .array items => .array (listToJson items)
  | .object entries => .object (entriesToJson entries)

/-- The JSON trees of the items of an array. -/
def listToJson : List Value → List Json
  | [] => []
  | item :: items => toJson item :: listToJson items

/-- The JSON entries of an object. -/
def entriesToJson : List (String × Value) → List (String × Json)
  | [] => []
  | (key, value) :: entries => (key, toJson value) :: entriesToJson entries

end

mutual

/-- The value of a JSON tree. -/
def ofJson : Json → Value
  | .null => .null
  | .boolean value => .boolean value
  | .number value => .number value.toBinary64
  | .string value => .string value
  | .array items => .array (listOfJson items)
  | .object entries => .object (Entries.ofList (entriesOfJson entries))

/-- The values of the items of an array. -/
def listOfJson : List Json → List Value
  | [] => []
  | item :: items => ofJson item :: listOfJson items

/-- The values of the entries of an object. -/
def entriesOfJson : List (String × Json) → List (String × Value)
  | [] => []
  | (key, item) :: entries => (key, ofJson item) :: entriesOfJson entries

end

/-- The comma before an item that is not the first one. -/
def separator (first : Bool) : List Char :=
  if first then [] else [',']

mutual

/-- Writes a value in front of a text. -/
def write : Value → List Char → List Char
  | .null, rest => Json.nullText ++ rest
  | .boolean value, rest => Json.booleanText value ++ rest
  | .number value, rest => (Json.Number.ofBinary64 value).text ++ rest
  | .string value, rest => Json.stringText value ++ rest
  | .array items, rest => '[' :: writeItems true items rest
  | .object entries, rest => '\x7b' :: writeEntries true entries rest

/-- Writes items up to the closing bracket. -/
def writeItems (first : Bool) : List Value → List Char → List Char
  | [], rest => ']' :: rest
  | item :: items, rest => separator first ++ write item (writeItems false items rest)

/-- Writes entries up to the closing brace. -/
def writeEntries (first : Bool) : List (String × Value) → List Char → List Char
  | [], rest => '\x7d' :: rest
  | (key, value) :: entries, rest =>
    separator first ++ (Json.stringText key ++ ':' :: write value (writeEntries false entries rest))

end

/-- The JSON text of a value. -/
def text (value : Value) : String :=
  String.ofList (value.write [])

/-- How a value is joined into a string: a string as it is, anything else as JSON. -/
def joinText : Value → String
  | .string value => value
  | other => other.text

/-- Reads a value from JSON text. -/
def parse (source : String) : Except Json.ReadError Value :=
  ofJson <$> Json.parse Json.depthLimit source

/-! ## Exact text -/

mutual

/-- Whether a value holds a number that JSON cannot write: one that is not finite, or a negative
zero. -/
def isInexact : Value → Bool
  | .number value => !value.isFinite || value.isNegativeZero
  | .array items => listIsInexact items
  | .object entries => entriesAreInexact entries
  | _ => false

/-- Whether one of some values holds a number that JSON cannot write. -/
def listIsInexact : List Value → Bool
  | [] => false
  | item :: items => isInexact item || listIsInexact items

/-- Whether one of some entries holds a number that JSON cannot write. -/
def entriesAreInexact : List (String × Value) → Bool
  | [] => false
  | (_, value) :: entries => isInexact value || entriesAreInexact entries

end

/-- The text of a number in which every double is told apart. -/
def exactNumber (number : Binary64) : String :=
  match number with
  | .nan _ _ => "NaN"
  | .infinite negative => if negative then "-inf" else "inf"
  | .finite _ _ => if number.isNegativeZero then "-0" else (Json.ofBinary64 number).compact

mutual

/-- The text of a value in which every double is told apart. -/
def exactText : Value → String
  | .number value => exactNumber value
  | .array items => "[" ++ ",".intercalate (exactTexts items) ++ "]"
  | .object entries => "\x7b" ++ ",".intercalate (exactEntries entries) ++ "\x7d"
  | .null => "null"
  | .boolean value => if value then "true" else "false"
  | .string value => (Json.string value).compact

/-- The texts of some values. -/
def exactTexts : List Value → List String
  | [] => []
  | item :: items => exactText item :: exactTexts items

/-- The texts of some entries. -/
def exactEntries : List (String × Value) → List String
  | [] => []
  | (key, value) :: entries =>
    ((Json.string key).compact ++ ":" ++ exactText value) :: exactEntries entries

end

end HostScript.Value
