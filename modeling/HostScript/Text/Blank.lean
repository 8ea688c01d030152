import HostScript.Text.CodePoints

/-!
# Blank characters

Trimming and the blank class of patterns use the wide set of blanks; program text is separated by
the four narrow ones only.
-/

namespace HostScript.Text

/-- The edges of the characters that trimming removes. -/
def blankEdges : List Nat :=
  [0x9, 0xe, 0x20, 0x21, 0x85, 0x86, 0xa0, 0xa1, 0x1680, 0x1681, 0x2000, 0x200b, 0x2028, 0x202a,
   0x202f, 0x2030, 0x205f, 0x2060, 0x3000, 0x3001]

/-- Whether a character is blank in the wide sense. -/
def isBlank (char : Char) : Bool :=
  isInside char.toNat blankEdges

/-- Whether a character separates program text: a space, a tab, a line feed or a carriage return. -/
def isSeparator (char : Char) : Bool :=
  char == ' ' || char == '\t' || char == '\n' || char == '\r'

/-- Text without the blanks at its start and at its end. -/
def trim (text : List Char) : List Char :=
  ((text.dropWhile isBlank).reverse.dropWhile isBlank).reverse

end HostScript.Text
