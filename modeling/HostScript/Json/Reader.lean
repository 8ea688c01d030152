import HostScript.Json.Scalar
import HostScript.Text.Blank

/-!
# Reading JSON text

Text is read from left to right, and the first problem met decides the error. A reader of a wanted
shape first reads the head of a value, that is a whole scalar or an opening bracket, and then checks
its kind. A budget of levels bounds how many brackets and braces may be open at once.
-/

namespace HostScript.Json

namespace Reader

/-- Skips blanks. -/
def skipBlanks : Reader Unit := fun text =>
  .ok ((), text.dropWhile Text.isSeparator)

/-- Reads the head of a value after blanks: a whole scalar or an opening bracket. -/
def headAfterBlanks : Reader Head
  | [] => .error .endOfText
  | char :: text =>
    if char = 'n' then (word ['u', 'l', 'l'] *> pure .null : Reader Head) text
    else if char = 't' then (word ['r', 'u', 'e'] *> pure (.boolean true) : Reader Head) text
    else if char = 'f' then
      (word ['a', 'l', 's', 'e'] *> pure (.boolean false) : Reader Head) text
    else if char = '"' then (.string <$> stringRest : Reader Head) text
    else if char = '-' then (.number <$> unsignedNumber true : Reader Head) text
    else if char.isDigit then (.number <$> unsignedNumber false : Reader Head) (char :: text)
    else if char = '[' then .ok (.array, text)
    else if char = '\x7b' then .ok (.object, text)
    else .error .malformed

/-- Reads the head of a value. -/
def head : Reader Head :=
  skipBlanks *> headAfterBlanks

/-- The error for a value of the wrong kind. -/
def wrongKind (found : Head) (wanted : Wanted) : ReadError :=
  .shape (.wrongKind found wanted)

/-- Reads a number as a double. -/
def number : Reader Binary64 := do
  match ← head with
  | .number value => return value.toBinary64
  | found => throw (wrongKind found .number)

/-- Reads a string. -/
def string : Reader String := do
  match ← head with
  | .string value => return value
  | found => throw (wrongKind found .string)

/-- Reads a truth value. -/
def boolean : Reader Bool := do
  match ← head with
  | .boolean value => return value
  | found => throw (wrongKind found .boolean)

/-- Reads the opening bracket of an array. -/
def openArray (wanted : Wanted) : Reader Unit := do
  match ← head with
  | .array => return ()
  | found => throw (wrongKind found wanted)

/-- Reads the opening brace of an object. -/
def openObject (wanted : Wanted) : Reader Unit := do
  match ← head with
  | .object => return ()
  | found => throw (wrongKind found wanted)

/-- Spends one level of the budget on a bracket that was opened. -/
def nested {α : Type} (depth : Nat) (body : Nat → Reader α) : Reader α :=
  match depth with
  | 0 => throw .malformed
  | depth + 1 => body depth

/-- Reads a comma and the blanks after it, unless nothing was read before. -/
def separatorAfterBlanks (first : Bool) (close : Char) : Reader Unit
  | [] => .error .endOfText
  | char :: text =>
    if first then .ok ((), char :: text)
    else if char = ',' then
      match text.dropWhile Text.isSeparator with
      | [] => .error .endOfText
      | next :: rest => if next = close then .error .malformed else .ok ((), next :: rest)
    else .error .malformed

/-- Whether another item follows; if one does, the text is left at its start, and otherwise at the
closing bracket. -/
def hasNext (first : Bool) (close : Char) : Reader Bool := fun text =>
  match text.dropWhile Text.isSeparator with
  | [] => .error .endOfText
  | char :: rest =>
    if char = close then .ok (false, char :: rest)
    else (separatorAfterBlanks first close *> pure true : Reader Bool) (char :: rest)

/-- Whether another item of an array follows. -/
def hasItem (first : Bool) : Reader Bool :=
  hasNext first ']'

/-- Whether another entry of an object follows, which must start with a string. -/
def hasKey (first : Bool) : Reader Bool := do
  if ← hasNext first '\x7d' then
    match ← get with
    | '"' :: _ => return true
    | _ => throw .malformed
  else return false

/-- Reads the closing bracket after blanks. -/
def close (bracket : Char) : Reader Unit := do
  skipBlanks
  match ← get with
  | char :: rest => if char = bracket then set rest else throw .malformed
  | [] => throw .endOfText

/-- Reads the colon after a key. -/
def colon : Reader Unit :=
  close ':'

/-- Reads items until none follows, at most `bound` of them. -/
def itemsFrom {α : Type} (item : Reader α) : (bound : Nat) → (first : Bool) → Reader (List α)
  | 0, _ => throw .endOfText
  | bound + 1, first => do
    if ← hasItem first then
      let value ← item
      return value :: (← itemsFrom item bound false)
    else return []

/-- Reads the items of an array that was opened, and its closing bracket. Each item takes at least
one character, so the length of the text bounds their number. -/
def items {α : Type} (item : Reader α) : Reader (List α) := do
  let values ← itemsFrom item ((← get).length + 1) true
  close ']'
  return values

/-- Reads entries until none follows, at most `bound` of them. -/
def entriesFrom {α : Type} (item : Reader α) :
    (bound : Nat) → (first : Bool) → Reader (List (String × α))
  | 0, _ => throw .endOfText
  | bound + 1, first => do
    if ← hasKey first then
      let key ← string
      colon
      let value ← item
      return (key, value) :: (← entriesFrom item bound false)
    else return []

/-- Reads the entries of an object that was opened, and its closing brace. -/
def entries {α : Type} (item : Reader α) : Reader (List (String × α)) := do
  let values ← entriesFrom item ((← get).length + 1) true
  close '\x7d'
  return values

/-- Reads a value, given readers for what follows an opening bracket and an opening brace. -/
def valueWith (array object : Reader Json) : Reader Json := do
  match ← head with
  | .null => return .null
  | .boolean found => return .boolean found
  | .number found => return .number found
  | .string found => return .string found
  | .array => array
  | .object => object

/-- Reads a value with at most `depth` brackets and braces open at once. -/
def value : (depth : Nat) → Reader Json
  | 0 => valueWith (throw .malformed) (throw .malformed)
  | depth + 1 => valueWith (.array <$> items (value depth)) (.object <$> entries (value depth))

/-- Reads a whole text: after the value only blanks may follow. -/
def document {α : Type} (reader : Reader α) (text : String) : Except ReadError α := do
  let (result, rest) ← reader text.toList
  if (rest.dropWhile Text.isSeparator).isEmpty then return result else throw .malformed

end Reader

/-- The levels that may be open at once in the texts of programs and values. -/
def depthLimit : Nat := 127

/-- Reads a text as a tree with at most `depth` levels. -/
def parse (depth : Nat) (text : String) : Except ReadError Json :=
  Reader.document (Reader.value depth) text

end HostScript.Json
