import HostScript.Pattern.Basic

/-!
# Characters and escapes of patterns

The state of reading a pattern, with flags that hold to the end of the group they are set in, and
readers of single characters and of what follows a backslash. A text that is not a pattern is
refused as a whole, so reading has no error other than failure.
-/

namespace HostScript.Pattern

open HostScript.Text

/-- The flags in force at a place of a pattern. -/
structure Flags where
  ignoreCase : Bool
  multiLine : Bool
  dotAll : Bool
  extended : Bool
  carriageReturn : Bool
  ascii : Bool

/-- No flag is set at the start of a pattern. -/
def Flags.initial : Flags :=
  ⟨false, false, false, false, false, false⟩

/-- Sets or clears the flag of a letter. -/
def Flags.assign? (flags : Flags) (letter : Char) (value : Bool) : Option Flags :=
  match letter with
  | 'i' => some { flags with ignoreCase := value }
  | 'm' => some { flags with multiLine := value }
  | 's' => some { flags with dotAll := value }
  | 'x' => some { flags with extended := value }
  | 'R' => some { flags with carriageReturn := value }
  | 'u' => some { flags with ascii := !value }
  | 'U' => some flags
  | _ => none

/-- The flags after a list of letters, in which each letter and the hyphen stand at most once and
the hyphen, after which flags are cleared, not at the end. -/
def Flags.assignAll? (flags : Flags) (value : Bool) :
    (seen letters : List Char) → Option Flags
  | seen, [] => if seen.head? = some '-' then none else some flags
  | seen, letter :: letters =>
    if seen.contains letter then none
    else if letter = '-' then flags.assignAll? false (letter :: seen) letters
    else do
      let flags ← flags.assign? letter value
      flags.assignAll? value (letter :: seen) letters

/-- What is left of a pattern, the flags in force, and the group names used so far. -/
structure Reading where
  rest : List Char
  flags : Flags
  names : List String

/-- A reader of a part of a pattern. -/
abbrev Reader := StateT Reading Option

namespace Reader

/-! ## Characters -/

/-- Drops blanks and comments. -/
def dropFiller (inComment : Bool) : List Char → List Char
  | [] => []
  | char :: rest =>
    if inComment then dropFiller (char ≠ '\n') rest
    else if isBlank char then dropFiller false rest
    else if char = '#' then dropFiller true rest
    else char :: rest

/-- Skips blanks and comments where the flags say so. -/
def skipFiller : Reader Unit :=
  modify fun state =>
    if state.flags.extended then { state with rest := dropFiller false state.rest } else state

/-- The next character, which is not taken. -/
def peek : Reader Char := do
  match (← get).rest with
  | char :: _ => return char
  | [] => failure

/-- Takes the next character. -/
def next : Reader Char := do
  match (← get).rest with
  | char :: rest =>
    modify ({ · with rest := rest })
    return char
  | [] => failure

/-- Takes the next character and the filler after it. -/
def nextSkipping : Reader Char := do
  let char ← next
  skipFiller
  return char

/-- Takes a text if it comes next. -/
def take? (text : String) : Reader Bool := do
  let rest := (← get).rest
  if text.toList.isPrefixOf rest then
    modify ({ · with rest := rest.drop text.length })
    return true
  else return false

/-- Takes the longest run of characters that satisfy a condition. -/
def takeWhile (condition : Char → Bool) : Reader (List Char) := do
  let rest := (← get).rest
  modify ({ · with rest := rest.dropWhile condition })
  return rest.takeWhile condition

/-- Takes a character that must come next. -/
def require (char : Char) : Reader Unit := do
  if (← next) = char then return () else failure

/-! ## Escapes -/

/-- What an escape or a plain character stands for. -/
inductive Atom where
  | literal (char : Char)
  | set (set : CharSet)
  | anchor (condition : Anchor)

/-- The value of a hexadecimal digit. -/
def hexDigit (char : Char) : Reader Nat :=
  if char.isDigit then return char.toNat - 48
  else if 'a' ≤ char ∧ char ≤ 'f' then return char.toNat - 87
  else if 'A' ≤ char ∧ char ≤ 'F' then return char.toNat - 55
  else failure

/-- The character with a code point. -/
def charOfCode (code : Nat) : Reader Char :=
  if code.isValidChar then return Char.ofNat code else failure

/-- Reads an exact number of hexadecimal digits. -/
def hexDigits : (count : Nat) → (value : Nat) → Reader Nat
  | 0, value => return value
  | count + 1, value => do
    let digit ← hexDigit (← nextSkipping)
    hexDigits count (value * 16 + digit)

/-- Reads hexadecimal digits up to a closing brace, at least one. -/
def bracedHex (bound : Nat) (value : Option Nat) : Reader Nat :=
  match bound with
  | 0 => failure
  | bound + 1 => do
    let char ← nextSkipping
    if char = '\x7d' then
      match value with
      | some value => return value
      | none => failure
    else bracedHex bound (some (value.getD 0 * 16 + (← hexDigit char)))

/-- Reads a code point of a number of digits, or any number of them between braces. -/
def hexEscape (count : Nat) : Reader Atom := do
  skipFiller
  let code ←
    if (← peek) = '\x7b' then do
      let _ ← nextSkipping
      bracedHex (← get).rest.length none
    else hexDigits count 0
  return .literal (← charOfCode code)

/-- Characters that mean something in a pattern and stand for themselves after a backslash. -/
def isMeta (char : Char) : Bool :=
  "\\.+*?()|[]\x7b\x7d^$#&-~".toList.contains char

/-- Whether a character stands for itself after a backslash: letters, digits and angle brackets do
not, nor does anything outside of ASCII. -/
def isEscapable (char : Char) : Bool :=
  isMeta char ||
    (char.toNat < 128 && !char.isAlphanum && char != '<' && char != '>')

/-- The anchor named between braces after a word boundary. -/
def namedBoundary? (ascii : Bool) : String → Option Anchor
  | "start" => some (.wordStart ascii)
  | "end" => some (.wordEnd ascii)
  | "start-half" => some (.notAfterWord ascii)
  | "end-half" => some (.notBeforeWord ascii)
  | _ => none

/-- Whether the name of an anchor may hold a character. -/
def isBoundaryNameChar (char : Char) : Bool :=
  char.isAlpha || char == '-'

/-- Reads what follows the escape of a word boundary: a name between braces, unless what stands
there is a count. -/
def boundary : Reader Anchor := do
  let state ← get
  let ascii := state.flags.ascii
  if ← take? "\x7b" then
    skipFiller
    if isBoundaryNameChar (← peek) then
      let name ← takeWhile isBoundaryNameChar
      require '\x7d'
      match namedBoundary? ascii (String.ofList name) with
      | some condition => return condition
      | none => failure
    else
      set state
      return .wordBoundary ascii
  else return .wordBoundary ascii

/-- A set or its complement. A complement may hold parts of characters where only ASCII counts, and
is refused there. -/
def shorthandClass (set : Bool → CharSet) (negated : Bool) : Reader Atom := do
  let ascii := (← get).flags.ascii
  if negated then
    if ascii then failure else return .set (.complement (set false))
  else return .set (set ascii)

/-- Reads what follows a backslash. -/
def escape : Reader Atom := do
  let char ← next
  let ascii := (← get).flags.ascii
  match char with
  | 'x' => hexEscape 2
  | 'u' => hexEscape 4
  | 'U' => hexEscape 8
  | 'd' => shorthandClass CharSet.digits false
  | 'D' => shorthandClass CharSet.digits true
  | 's' => shorthandClass CharSet.blanks false
  | 'S' => shorthandClass CharSet.blanks true
  | 'w' => shorthandClass CharSet.wordChars false
  | 'W' => shorthandClass CharSet.wordChars true
  | 'a' => return .literal (Char.ofNat 7)
  | 'f' => return .literal (Char.ofNat 12)
  | 't' => return .literal '\t'
  | 'n' => return .literal '\n'
  | 'r' => return .literal '\r'
  | 'v' => return .literal (Char.ofNat 11)
  | 'A' => return .anchor .textStart
  | 'z' => return .anchor .textEnd
  | 'b' => return .anchor (← boundary)
  | 'B' => return .anchor (.notWordBoundary ascii)
  | '<' => return .anchor (.wordStart ascii)
  | '>' => return .anchor (.wordEnd ascii)
  | char => if isEscapable char then return .literal char else failure

end Reader

end HostScript.Pattern
