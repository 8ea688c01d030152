import HostScript.Pattern.Tables
import HostScript.Text.Blank

/-!
# Sets of characters in patterns

The sets that a pattern can name: tables and ranges of code points, their combinations, and the
closure of a set under letter case.
-/

namespace HostScript.Pattern

open HostScript.Text

/-- The code points that a run pairs with a code point. -/
def runPartners (code : Nat) (run : CaseRun) : List Nat :=
  let partner := (code - run.shift).toNat
  let larger :=
    if run.first ≤ code ∧ code ≤ run.last ∧ (code - run.first) % run.stride = 0 then
      [(code + run.shift).toNat]
    else []
  let smaller :=
    if run.shift ≤ code ∧ run.first ≤ partner ∧ partner ≤ run.last ∧
        (partner - run.first) % run.stride = 0 then [partner]
    else []
  larger ++ smaller

/-- The code points that differ from a code point in case only, itself included. -/
def caseVariants (code : Nat) : List Nat :=
  match caseGroups.find? (·.contains code) with
  | some group => group
  | none => code :: casePairRuns.flatMap (runPartners code)

/-- The ASCII code points that differ from a code point in case only, itself included. -/
def asciiCaseVariants (code : Nat) : List Nat :=
  if 65 ≤ code ∧ code ≤ 90 then [code, code + 32]
  else if 97 ≤ code ∧ code ≤ 122 then [code, code - 32]
  else [code]

/-- A set of characters. -/
inductive CharSet where
  | codePoints (edges : List Nat)
  | union (left right : CharSet)
  | intersection (left right : CharSet)
  | difference (left right : CharSet)
  | symmetricDifference (left right : CharSet)
  | complement (set : CharSet)
  | anyCase (ascii : Bool) (set : CharSet)

namespace CharSet

/-- The set without characters. -/
def empty : CharSet := .codePoints []

/-- The characters between two characters, both included. -/
def range (first last : Char) : CharSet :=
  .codePoints [first.toNat, last.toNat + 1]

/-- The set of one character. -/
def single (char : Char) : CharSet :=
  range char char

/-- Whether a code point belongs to a set. -/
def contains : CharSet → Nat → Bool
  | .codePoints edges, code => isInside code edges
  | .union left right, code => left.contains code || right.contains code
  | .intersection left right, code => left.contains code && right.contains code
  | .difference left right, code => left.contains code && !right.contains code
  | .symmetricDifference left right, code => left.contains code != right.contains code
  | .complement set, code => !set.contains code
  | .anyCase ascii set, code =>
    (if ascii then asciiCaseVariants code else caseVariants code).any set.contains

/-- The decimal digits, all of them or the ASCII ones. -/
def digits (ascii : Bool) : CharSet :=
  .codePoints (if ascii then [0x30, 0x3a] else digitEdges)

/-- The blanks, all of them or the ASCII ones. -/
def blanks (ascii : Bool) : CharSet :=
  .codePoints (if ascii then [0x9, 0xe, 0x20, 0x21] else blankEdges)

/-- The word characters, all of them or the ASCII ones. -/
def wordChars (ascii : Bool) : CharSet :=
  .codePoints (if ascii then [0x30, 0x3a, 0x41, 0x5b, 0x5f, 0x60, 0x61, 0x7b] else wordEdges)

/-- The named classes of ASCII characters. -/
def ofClassName? : String → Option CharSet
  | "alnum" => some (.codePoints [0x30, 0x3a, 0x41, 0x5b, 0x61, 0x7b])
  | "alpha" => some (.codePoints [0x41, 0x5b, 0x61, 0x7b])
  | "ascii" => some (.codePoints [0x0, 0x80])
  | "blank" => some (.codePoints [0x9, 0xa, 0x20, 0x21])
  | "cntrl" => some (.codePoints [0x0, 0x20, 0x7f, 0x80])
  | "digit" => some (.codePoints [0x30, 0x3a])
  | "graph" => some (.codePoints [0x21, 0x7f])
  | "lower" => some (.codePoints [0x61, 0x7b])
  | "print" => some (.codePoints [0x20, 0x7f])
  | "punct" => some (.codePoints [0x21, 0x30, 0x3a, 0x41, 0x5b, 0x61, 0x7b, 0x7f])
  | "space" => some (.codePoints [0x9, 0xe, 0x20, 0x21])
  | "upper" => some (.codePoints [0x41, 0x5b])
  | "word" => some (wordChars true)
  | "xdigit" => some (.codePoints [0x30, 0x3a, 0x41, 0x47, 0x61, 0x67])
  | _ => none

end CharSet

end HostScript.Pattern
