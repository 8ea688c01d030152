import HostScript.Json.Basic
import HostScript.Text.Quoted

/-!
# JSON text

`compact` writes a tree without blanks; `pretty` puts every item on a line of its own, indented by
two spaces a level. Both are one printer with different blanks.
-/

namespace HostScript.Json

/-- A character inside a JSON string: quotes, backslashes and control characters are escaped. -/
def escapeChar (char : Char) : List Char :=
  if char = '"' then ['\\', '"']
  else if char = '\\' then ['\\', '\\']
  else if char.toNat = 8 then ['\\', 'b']
  else if char.toNat = 12 then ['\\', 'f']
  else if char = '\n' then ['\\', 'n']
  else if char = '\r' then ['\\', 'r']
  else if char = '\t' then ['\\', 't']
  else if char.toNat < 32 then
    ['\\', 'u', '0', '0', Nat.digitChar (char.toNat / 16), Nat.digitChar (char.toNat % 16)]
  else [char]

/-- The text of a string between double quotes. -/
def stringText (text : String) : List Char :=
  '"' :: text.toList.flatMap escapeChar ++ ['"']

/-- The text of an integer. -/
def integerText : Int → List Char
  | .ofNat magnitude => Nat.toDigits 10 magnitude
  | .negSucc magnitude => '-' :: Nat.toDigits 10 (magnitude + 1)

/-- The word for a missing value. -/
def nullText : List Char := ['n', 'u', 'l', 'l']

/-- The text of a number; a number that is not finite has none and is written as null. -/
def Number.text : Number → List Char
  | .integer value => integerText value
  | .float value => value.floatText?.getD nullText

/-- The text of a truth value. -/
def booleanText : Bool → List Char
  | true => ['t', 'r', 'u', 'e']
  | false => ['f', 'a', 'l', 's', 'e']

/-- The blanks of a text: what stands before an item or a closing bracket at a level, and what
stands after a colon. -/
structure Layout where
  lineBreak : Nat → List Char
  afterColon : List Char

/-- No blanks. -/
def Layout.compact : Layout := ⟨fun _ => [], []⟩

/-- One item a line, two spaces a level, a space after a colon. -/
def Layout.pretty : Layout := ⟨fun level => '\n' :: List.replicate (2 * level) ' ', [' ']⟩

mutual

/-- Writes a tree that stands at the given level in front of a text. -/
def write (layout : Layout) (level : Nat) : Json → List Char → List Char
  | .null, rest => nullText ++ rest
  | .boolean value, rest => booleanText value ++ rest
  | .number value, rest => value.text ++ rest
  | .string value, rest => stringText value ++ rest
  | .array [], rest => '[' :: ']' :: rest
  | .array (item :: items), rest =>
    '[' :: layout.lineBreak (level + 1) ++
      write layout (level + 1) item (writeItems layout level items rest)
  | .object [], rest => '\x7b' :: '\x7d' :: rest
  | .object ((key, item) :: entries), rest =>
    '\x7b' :: layout.lineBreak (level + 1) ++ stringText key ++ ':' :: layout.afterColon ++
      write layout (level + 1) item (writeEntries layout level entries rest)

/-- Writes the items after the first one and the closing bracket. -/
def writeItems (layout : Layout) (level : Nat) : List Json → List Char → List Char
  | [], rest => layout.lineBreak level ++ ']' :: rest
  | item :: items, rest =>
    ',' :: layout.lineBreak (level + 1) ++
      write layout (level + 1) item (writeItems layout level items rest)

/-- Writes the entries after the first one and the closing brace. -/
def writeEntries (layout : Layout) (level : Nat) : List (String × Json) → List Char → List Char
  | [], rest => layout.lineBreak level ++ '\x7d' :: rest
  | (key, item) :: entries, rest =>
    ',' :: layout.lineBreak (level + 1) ++ stringText key ++ ':' :: layout.afterColon ++
      write layout (level + 1) item (writeEntries layout level entries rest)

end

/-- The text of a tree. -/
def render (layout : Layout) (json : Json) : List Char :=
  write layout 0 json []

/-- The text of a tree without blanks. -/
def compact (json : Json) : String :=
  String.ofList (render .compact json)

/-- The text of a tree with one item a line. -/
def pretty (json : Json) : String :=
  String.ofList (render .pretty json)

end HostScript.Json
