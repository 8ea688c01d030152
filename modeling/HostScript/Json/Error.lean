import HostScript.Json.Printer

/-!
# Errors of reading JSON text

Reading stops at the first problem: the text ended too early, it is malformed, or it is well formed
so far but not of the wanted shape. Only errors of shape have a message.
-/

namespace HostScript.Json

/-- The head of a value: a scalar, or the bracket that opens an array or an object. -/
inductive Head where
  | null
  | boolean (value : Bool)
  | number (value : Number)
  | string (value : String)
  | array
  | object
deriving DecidableEq, Repr

/-- What a reader wanted to find. -/
inductive Wanted where
  | number
  | string
  | boolean
  | array
  | object
  | operands (count : Nat)
  | node (kind : String)
deriving DecidableEq, Repr

/-- Why well-formed text does not have the wanted shape. -/
inductive ShapeError where
  | wrongKind (found : Head) (wanted : Wanted)
  | wrongLength (found wanted : Nat)
  | missingTag (kind : String)
  | unknownTag (kind tag : String)
  | extraKey (kind : String)
  | wrongTarget (tag : String)
deriving DecidableEq, Repr

/-- Why a text could not be read. -/
inductive ReadError where
  | endOfText
  | malformed
  | shape (error : ShapeError)
deriving DecidableEq, Repr

/-- A head as messages name it. -/
def Head.description : Head → String
  | .null => "null"
  | .boolean value => "boolean `" ++ String.ofList (booleanText value) ++ "`"
  | .number (.integer value) => "integer `" ++ String.ofList (integerText value) ++ "`"
  | .number (.float value) =>
    "floating point `" ++ String.ofList (value.floatText?.getD nullText) ++ "`"
  | .string value => "string " ++ Text.quote value
  | .array => "sequence"
  | .object => "map"

/-- A wanted shape as messages name it. -/
def Wanted.description : Wanted → String
  | .number => "f64"
  | .string => "a string"
  | .boolean => "a boolean"
  | .array => "a sequence"
  | .object => "a map"
  | .operands count => s!"a tuple of size {count}"
  | .node kind => s!"a single-key {kind} node"

/-- The message of a shape error. -/
def ShapeError.message : ShapeError → String
  | .wrongKind found wanted =>
    s!"invalid type: {found.description}, expected {wanted.description}"
  | .wrongLength found wanted => s!"invalid length {found}, expected a tuple of size {wanted}"
  | .missingTag kind => s!"{kind} node has no discriminant"
  | .unknownTag kind tag => s!"unknown {kind} discriminant `{tag}`"
  | .extraKey kind => s!"{kind} node must have exactly one key"
  | .wrongTarget tag => s!"assignment target must be a `var` node, got `{tag}`"

end HostScript.Json
