import HostScript.Pattern.CharSet

/-!
# Patterns and matching

A pattern is matched by moving marks through its tree. A character position of the pattern is marked
when the text read so far can end with that position, so one pass over the text with one pass over
the tree per character finds whether the pattern occurs anywhere. Anchors look at the characters on
both sides of a place in the text.
-/

namespace HostScript

namespace Pattern

/-- Conditions on a place in a text. The flag of a line anchor says whether a carriage return also
ends a line, and that of a word anchor whether only ASCII words count. -/
inductive Anchor where
  | textStart
  | textEnd
  | lineStart (carriageReturn : Bool)
  | lineEnd (carriageReturn : Bool)
  | wordBoundary (ascii : Bool)
  | notWordBoundary (ascii : Bool)
  | wordStart (ascii : Bool)
  | wordEnd (ascii : Bool)
  | notAfterWord (ascii : Bool)
  | notBeforeWord (ascii : Bool)

/-- A place in a text: the characters before and after it. -/
structure Place where
  before : Option Char
  after : Option Char

/-- Whether a word character stands on one side of a place. -/
def isWordSide (ascii : Bool) (side : Option Char) : Bool :=
  side.any fun char => (CharSet.wordChars ascii).contains char.toNat

/-- Whether a condition holds at a place. -/
def Anchor.holds (place : Place) : Anchor → Bool
  | .textStart => place.before.isNone
  | .textEnd => place.after.isNone
  | .lineStart false => place.before.all (· == '\n')
  | .lineStart true =>
    place.before.all fun char => char == '\n' || (char == '\r' && place.after != some '\n')
  | .lineEnd false => place.after.all (· == '\n')
  | .lineEnd true =>
    place.after.all fun char => char == '\r' || (char == '\n' && place.before != some '\r')
  | .wordBoundary ascii => isWordSide ascii place.before != isWordSide ascii place.after
  | .notWordBoundary ascii => isWordSide ascii place.before == isWordSide ascii place.after
  | .wordStart ascii => !isWordSide ascii place.before && isWordSide ascii place.after
  | .wordEnd ascii => isWordSide ascii place.before && !isWordSide ascii place.after
  | .notAfterWord ascii => !isWordSide ascii place.before
  | .notBeforeWord ascii => !isWordSide ascii place.after

end Pattern

/-- A pattern. Its character positions carry marks. A repeated pattern is matched any number of
times, at least once unless it may be left out. -/
inductive Pattern where
  | empty
  | position (set : Pattern.CharSet) (marked : Bool)
  | anchor (condition : Pattern.Anchor)
  | seq (first second : Pattern)
  | alt (left right : Pattern)
  | many (body : Pattern) (orNone : Bool)

namespace Pattern

/-- An unmarked position. -/
def ofSet (set : CharSet) : Pattern :=
  .position set false

/-- Zero or one. -/
def optional (pattern : Pattern) : Pattern :=
  .alt pattern .empty

/-- A number of copies of a pattern in front of another one. -/
def copies (pattern : Pattern) : (count : Nat) → (tail : Pattern) → Pattern
  | 0, tail => tail
  | count + 1, tail => .seq pattern (copies pattern count tail)

/-- At most a number of copies of a pattern. -/
def upTo (pattern : Pattern) : (count : Nat) → Pattern
  | 0 => .empty
  | count + 1 => optional (.seq pattern (upTo pattern count))

/-- The number of nodes of a pattern. -/
def size : Pattern → Nat
  | .empty => 1
  | .position _ _ => 1
  | .anchor _ => 1
  | .seq first second => first.size + second.size + 1
  | .alt left right => left.size + right.size + 1
  | .many body _ => body.size + 1

/-- Whether a pattern matches the empty text at a place. -/
def nullable (place : Place) : Pattern → Bool
  | .empty => true
  | .position _ _ => false
  | .anchor condition => condition.holds place
  | .seq first second => first.nullable place && second.nullable place
  | .alt left right => left.nullable place || right.nullable place
  | .many body orNone => orNone || body.nullable place

/-- Whether a match can end at a place: some mark has nothing after it that must still be read. -/
def canEnd (place : Place) : Pattern → Bool
  | .empty => false
  | .position _ marked => marked
  | .anchor _ => false
  | .seq first second => (first.canEnd place && second.nullable place) || second.canEnd place
  | .alt left right => left.canEnd place || right.canEnd place
  | .many body _ => body.canEnd place

/-- Moves the marks over the character after a place. `entered` says whether a match may start
right before the pattern at this place. -/
def shift (place : Place) (code : Nat) : (entered : Bool) → Pattern → Pattern
  | _, .empty => .empty
  | entered, .position set _ => .position set (entered && set.contains code)
  | _, .anchor condition => .anchor condition
  | entered, .seq first second =>
    let passed := (entered && first.nullable place) || first.canEnd place
    .seq (shift place code entered first) (shift place code passed second)
  | entered, .alt left right =>
    .alt (shift place code entered left) (shift place code entered right)
  | entered, .many body orNone =>
    .many (shift place code (entered || body.canEnd place) body) orNone

/-- Whether a match ends somewhere in the rest of a text, given the character before it. -/
def endsIn (pattern : Pattern) (before : Option Char) : List Char → Bool
  | [] =>
    let place : Place := ⟨before, none⟩
    pattern.nullable place || pattern.canEnd place
  | char :: rest =>
    let place : Place := ⟨before, some char⟩
    pattern.nullable place || pattern.canEnd place ||
      (pattern.shift place char.toNat true).endsIn (some char) rest

/-- Whether a pattern without marks occurs in a text. -/
def occursIn (pattern : Pattern) (text : List Char) : Bool :=
  pattern.endsIn none text

end Pattern

end HostScript
