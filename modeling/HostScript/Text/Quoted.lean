import HostScript.Text.Printable

/-!
# Quoted text in messages

Messages show a text between double quotes and a character between single quotes. The quote itself,
the backslash and the short control characters are escaped by a letter, and a character that is not
printable is shown by its code point.
-/

namespace HostScript.Text

/-- The lower-case hexadecimal digits of a number. -/
def hexDigits (number : Nat) : List Char :=
  Nat.toDigits 16 number

/-- A character as it stands between the given quotes. -/
def escape (quote char : Char) : List Char :=
  if char = '\n' then ['\\', 'n']
  else if char = '\r' then ['\\', 'r']
  else if char = '\t' then ['\\', 't']
  else if char.toNat = 0 then ['\\', '0']
  else if char = '\\' || char = quote then ['\\', char]
  else if isPrintable char then [char]
  else "\\u\x7b".toList ++ hexDigits char.toNat ++ ['\x7d']

/-- A text between double quotes. -/
def quote (text : String) : String :=
  String.ofList ('"' :: text.toList.flatMap (escape '"') ++ ['"'])

/-- A character between single quotes. -/
def quoteChar (char : Char) : String :=
  String.ofList ('\'' :: escape '\'' char ++ ['\''])

/-- A list of texts, each between double quotes, between brackets. -/
def quoteList (texts : List String) : String :=
  "[" ++ ", ".intercalate (texts.map quote) ++ "]"

end HostScript.Text
