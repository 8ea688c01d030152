/-!
# Searching in text

A separator is found at its leftmost occurrence, and the search goes on after it, so occurrences
never overlap. The empty separator is found before every character and at the end.
-/

namespace HostScript.Text

/-- Whether one text occurs in another. -/
def contains (needle : List Char) : List Char → Bool
  | [] => needle.isEmpty
  | char :: rest => needle.isPrefixOf (char :: rest) || contains needle rest

/-- Puts a character in front of the first part. -/
def consFirst (char : Char) : List (List Char) → List (List Char)
  | [] => [[char]]
  | first :: others => (char :: first) :: others

/-- The parts of a text between the occurrences of a nonempty separator. The first `skipped`
characters belong to an occurrence that was found already. -/
def splitSkipping (separator : List Char) : (skipped : Nat) → List Char → List (List Char)
  | _, [] => [[]]
  | skipped + 1, _ :: rest => splitSkipping separator skipped rest
  | 0, char :: rest =>
    if separator.isPrefixOf (char :: rest) then
      [] :: splitSkipping separator (separator.length - 1) rest
    else consFirst char (splitSkipping separator 0 rest)

/-- The parts of a text between the occurrences of a separator. -/
def split (separator text : List Char) : List (List Char) :=
  if separator.isEmpty then [[]] ++ text.map (fun char => [char]) ++ [[]]
  else splitSkipping separator 0 text

end HostScript.Text
