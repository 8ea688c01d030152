import HostScript.Pattern.Escape

/-!
# Bracketed classes of patterns

A class between brackets is a union of characters, ranges, shorthand classes, named classes and
nested classes, with operators between unions that associate to the left, and possibly negated.
-/

namespace HostScript.Pattern.Reader

open HostScript.Text

/-- A set closed under case where the flags say so. -/
def folded (flags : Flags) (set : CharSet) : CharSet :=
  if flags.ignoreCase then .anyCase flags.ascii set else set

/-- Reads a named class between brackets and colons, or nothing. -/
def namedClass? : Reader (Option CharSet) := do
  let state ← get
  if ← take? "[:" then
    let negated ← take? "^"
    let name ← takeWhile (· ≠ ':')
    if ← take? ":]" then
      match CharSet.ofClassName? (String.ofList name) with
      | some found =>
        let found := folded state.flags found
        return some (if negated then .complement found else found)
      | none => set state; return none
    else set state; return none
  else return none

/-- Reads one item of a class. -/
def classItem : Reader Atom := do
  let char ← next
  if char = '\\' then escape else return .literal char

/-- What stands after a hyphen, filler aside. -/
def afterHyphen : Reader (Option Char) := do
  let state ← get
  let rest := state.rest.drop 1
  return (if state.flags.extended then dropFiller false rest else rest).head?

/-- Reads an item of a class or a range. -/
def classRange : Reader CharSet := do
  let first ← classItem
  skipFiller
  let following ← afterHyphen
  if (← peek) ≠ '-' ∨ following = some ']' ∨ following = some '-' then
    match first with
    | .literal char => return .single char
    | .set set => return set
    | .anchor _ => failure
  else
    let _ ← nextSkipping
    match first, ← classItem with
    | .literal first, .literal last =>
      if first ≤ last then return .range first last else failure
    | _, _ => failure

/-- The operation of a class on the set so far. -/
abbrev Combine := CharSet → CharSet

/-- Takes an operator between two sets. -/
def classOperator? : Reader (Option (CharSet → CharSet → CharSet)) := do
  if ← take? "&&" then return some .intersection
  else if ← take? "--" then return some .difference
  else if ← take? "~~" then return some .symmetricDifference
  else return none

/-- Reads hyphens at the start of a class, which stand for themselves. -/
def leadingHyphens : (bound : Nat) → (any : Bool) → Reader Bool
  | 0, any => return any
  | bound + 1, any => do
    if (← peek) = '-' then
      let _ ← nextSkipping
      leadingHyphens bound true
    else return any

/-- Reads the start of a class after its bracket: a negation, and the hyphens or the closing bracket
that stand for themselves there. -/
def classOpening : Reader (Bool × CharSet) := do
  skipFiller
  let negated ← if (← peek) = '^' then (do let _ ← nextSkipping; pure true) else pure false
  let hyphens ← leadingHyphens (← get).rest.length false
  if hyphens then return (negated, .single '-')
  else if (← peek) = ']' then
    let _ ← nextSkipping
    let _ ← peek
    return (negated, .single ']')
  else
    return (negated, .empty)

/-- Reads the items of a class up to its closing bracket, given the reader of nested classes. -/
def classItems (nested : Reader CharSet) :
    (bound : Nat) → (combine : Combine) → (items : CharSet) → Reader CharSet
  | 0, _, _ => failure
  | bound + 1, combine, items => do
    skipFiller
    let flags := (← get).flags
    if (← peek) = '[' then
      let inner ←
        match ← namedClass? with
        | some set => pure set
        | none => do
          let _ ← next
          nested
      classItems nested bound combine (.union items inner)
    else if ← take? "]" then return combine (folded flags items)
    else
      match ← classOperator? with
      | some operator =>
        let left := combine (folded flags items)
        classItems nested bound (operator left) .empty
      | none =>
        let item ← classRange
        classItems nested bound combine (.union items item)

/-- Reads a class after its opening bracket. A negated class may hold parts of characters where only
ASCII counts, and is refused there. -/
def classWithin : (depth : Nat) → Reader CharSet
  | 0 => failure
  | depth + 1 => do
    let (negated, items) ← classOpening
    let flags := (← get).flags
    let set ← classItems (classWithin depth) ((← get).rest.length + 1) id items
    let set := folded flags set
    if negated then
      if flags.ascii then failure else return .complement set
    else return set

end HostScript.Pattern.Reader
