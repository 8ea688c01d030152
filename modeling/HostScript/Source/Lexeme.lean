import HostScript.Binary64.Decimal
import HostScript.Source.Parser

/-!
# Words, symbols and literals

The lexemes of program text. Each parser here takes the longest lexeme of its kind at the cursor,
or fails, records what was expected and leaves the cursor where it was.
-/

namespace HostScript

/-- The words that are not names. -/
def reservedWords : List String :=
  ["if", "then", "else", "for", "each", "in", "do", "end", "not", "and", "or", "true", "false"]

/-- Whether a word is reserved. -/
def isReserved (word : String) : Bool :=
  reservedWords.contains word

/-- Whether a name may start with a character. -/
def isNameStart (char : Char) : Bool :=
  char.isAlpha || char == '$' || char == '_'

/-- Whether a name may go on with a character. -/
def isNamePart (char : Char) : Bool :=
  char.isAlphanum || char == '$' || char == '_'

/-- An unsigned decimal literal: the digits before and after the point, and how many characters it
takes. -/
structure Numeral where
  whole : List Char
  fraction : List Char
  length : Nat
deriving DecidableEq, Repr

namespace Numeral

/-- The longest unsigned literal at the start of a text: digits with an optional point and optional
digits after it, or a point with digits after it. -/
def read? (text : List Char) : Option Numeral :=
  let whole := text.takeWhile Char.isDigit
  match text.dropWhile Char.isDigit with
  | '.' :: after =>
    let fraction := after.takeWhile Char.isDigit
    if whole.isEmpty && fraction.isEmpty then none
    else some ⟨whole, fraction, whole.length + 1 + fraction.length⟩
  | _ => if whole.isEmpty then none else some ⟨whole, [], whole.length⟩

/-- The double nearest to a literal. -/
def value (negative : Bool) (numeral : Numeral) : Binary64 :=
  .ofDecimal negative
    ⟨Nat.ofDigitChars 10 (numeral.whole ++ numeral.fraction) 0, -numeral.fraction.length⟩

end Numeral

/-- The sign at the start of a text, if there is one, and how many characters it takes. -/
def signOf : List Char → Bool × Nat
  | '-' :: _ => (true, 1)
  | '+' :: _ => (false, 1)
  | _ => (false, 0)

namespace Scanner

/-- Whether a symbol stands at the cursor. -/
def startsWith (symbol : String) (scanner : Scanner) : Bool :=
  symbol.toList.isPrefixOf scanner.rest

/-- Whether a word stands at the cursor and is not the beginning of a longer one. -/
def startsWithWord (word : String) (scanner : Scanner) : Bool :=
  scanner.startsWith word && !(scanner.rest[word.length]?).any isNamePart

end Scanner

namespace Parser

/-- A symbol. -/
def symbol (symbol : String) : Parser Unit := fun scanner =>
  if scanner.startsWith symbol then (some (), scanner.advance symbol.length)
  else (none, scanner.expect (Text.quote symbol))

/-- One character. -/
def char (char : Char) : Parser Unit :=
  symbol (String.singleton char)

/-- A reserved word. -/
def word (word : String) : Parser Unit := fun scanner =>
  if scanner.startsWithWord word then (some (), scanner.advance word.length)
  else (none, scanner.expect (Text.quote word))

/-- An equals sign that does not start the equality symbol. -/
def assignSign : Parser Unit := fun scanner =>
  match scanner.rest with
  | '=' :: '=' :: _ => (none, scanner.expect (Text.quote "="))
  | '=' :: _ => (some (), scanner.advance 1)
  | _ => (none, scanner.expect (Text.quote "="))

/-- A name, which is not a reserved word. -/
def identifier : Parser String := fun scanner =>
  let name := String.ofList (scanner.rest.takeWhile isNamePart)
  if (scanner.rest.head?).any isNameStart && !isReserved name then
    (some name, scanner.advance name.length)
  else (none, scanner.expect "identifier")

/-- A text between double quotes. There are no escapes. -/
def string : Parser String := fun scanner =>
  match scanner.rest with
  | '"' :: body =>
    let content := body.takeWhile (· ≠ '"')
    if (body.dropWhile (· ≠ '"')).isEmpty then
      (none, scanner.expectAt (scanner.offset + 1 + content.length) (Text.quote "\""))
    else (some (String.ofList content), scanner.advance (content.length + 2))
  | _ => (none, scanner.expect "string")

/-- A number with an optional sign. A literal out of the range of doubles is refused. -/
def number : Parser Binary64 := fun scanner =>
  let (negative, signLength) := signOf scanner.rest
  match Numeral.read? (scanner.rest.drop signLength) with
  | none => (none, scanner.expectAt (scanner.offset + signLength) "number")
  | some numeral =>
    let value := numeral.value negative
    if value.isFinite then (some value, scanner.advance (signLength + numeral.length))
    else (none, scanner.expect "number")

end Parser

end HostScript
