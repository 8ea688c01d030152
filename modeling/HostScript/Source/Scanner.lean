import HostScript.Text.Blank
import HostScript.Text.Quoted

/-!
# Scanning program text

A scanner is a cursor in a text together with a record of failures: the furthest place at which
something was expected and did not stand there, and everything that was expected at that place.
Moving the cursor back does not forget the record, so after a failed parse it tells where the text
stopped making sense.
-/

namespace HostScript

/-- Why a text is not a program: the furthest place that was reached, everything that was accepted
there, and the character that stands there instead. -/
structure ParseError where
  offset : Nat
  line : Nat
  column : Nat
  expected : List String
  found : Option Char
deriving DecidableEq, Repr

/-- A list in words, the last two items being alternatives. -/
def ParseError.alternatives : List String → String
  | [] => "nothing"
  | [only] => only
  | labels => ", ".intercalate labels.dropLast ++ " or " ++ labels.getLastD ""

/-- The message of a parse error. -/
def ParseError.message (error : ParseError) : String :=
  let found := (error.found.map Text.quoteChar).getD "end of input"
  s!"expected {alternatives error.expected} but {found} found at line {error.line}, " ++
    s!"column {error.column}"

/-- A cursor in a text, and the furthest failure so far. `rest` is the text from the cursor on;
the cursor may stand past the end. -/
structure Scanner where
  text : List Char
  offset : Nat
  rest : List Char
  furthest : Nat
  expected : List String
deriving Repr

namespace Scanner

/-- A scanner at the start of a text. -/
def ofString (text : String) : Scanner where
  text := text.toList
  offset := 0
  rest := text.toList
  furthest := 0
  expected := []

/-- Whether no character is left. -/
def isAtEnd (scanner : Scanner) : Bool :=
  scanner.rest.isEmpty

/-- Moves the cursor forward. -/
def advance (count : Nat) (scanner : Scanner) : Scanner :=
  { scanner with offset := scanner.offset + count, rest := scanner.rest.drop count }

/-- Moves the cursor to any place. -/
def seek (offset : Nat) (scanner : Scanner) : Scanner :=
  { scanner with offset := offset, rest := scanner.text.drop offset }

/-- Moves the cursor to where an earlier scanner of the same text stood. -/
def rewind (scanner earlier : Scanner) : Scanner :=
  { scanner with offset := earlier.offset, rest := earlier.rest }

/-- Moves the cursor over separators. -/
def skipBlanks (scanner : Scanner) : Scanner :=
  scanner.advance (scanner.rest.takeWhile Text.isSeparator).length

/-- Adds a label to a sorted list that has no repetitions. -/
def insertLabel (label : String) : List String → List String
  | [] => [label]
  | first :: others =>
    if label < first then label :: first :: others
    else if label = first then first :: others
    else first :: insertLabel label others

/-- Records that a label was expected at a place. A place further right than all before starts the
record anew, and a place further left leaves it as it is. -/
def expectAt (offset : Nat) (label : String) (scanner : Scanner) : Scanner :=
  if scanner.furthest < offset then { scanner with furthest := offset, expected := [label] }
  else if offset = scanner.furthest then
    { scanner with expected := insertLabel label scanner.expected }
  else scanner

/-- Records that a label was expected at the cursor. -/
def expect (label : String) (scanner : Scanner) : Scanner :=
  scanner.expectAt scanner.offset label

/-- The line and the column after a text that starts at the given ones, both counted from one. -/
def placeAfter (place : Nat × Nat) (text : List Char) : Nat × Nat :=
  text.foldl (fun (line, column) char => if char = '\n' then (line + 1, 1) else (line, column + 1))
    place

/-- The error for the furthest failure. -/
def error (scanner : Scanner) : ParseError :=
  let offset := min scanner.furthest scanner.text.length
  let (line, column) := placeAfter (1, 1) (scanner.text.take offset)
  { offset, line, column, expected := scanner.expected, found := scanner.text[offset]? }

end Scanner

end HostScript
