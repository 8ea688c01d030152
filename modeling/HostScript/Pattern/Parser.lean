import HostScript.Pattern.Bracket

/-!
# Reading patterns

Groups, repetitions and alternations. A repetition with counts is written out as copies, which
bounds how large a pattern may become.
-/

namespace HostScript.Pattern

open HostScript.Text

/-- The largest number of nodes a pattern may have. -/
def sizeLimit : Nat := 32768

namespace Reader

/-- The pattern of a set of characters with the flags in force. -/
def setPattern (flags : Flags) (set : CharSet) : Pattern :=
  .ofSet (folded flags set)

/-- The pattern of an atom. -/
def atomPattern (flags : Flags) : Atom → Pattern
  | .literal char => setPattern flags (.single char)
  | .set set => .ofSet set
  | .anchor condition => .anchor condition

/-- The pattern of a dot. -/
def dot : Reader Pattern := do
  let flags := (← get).flags
  if flags.ascii then failure
  else if flags.dotAll then return .ofSet (.complement .empty)
  else if flags.carriageReturn then
    return .ofSet (.complement (.union (.single '\n') (.single '\r')))
  else return .ofSet (.complement (.single '\n'))

/-- Reads a character, a dot, an anchor or an escape. -/
def primitive : Reader Pattern := do
  let flags := (← get).flags
  match ← next with
  | '\\' => return atomPattern flags (← escape)
  | '.' => dot
  | '^' =>
    return .anchor (if flags.multiLine then .lineStart flags.carriageReturn else .textStart)
  | '$' => return .anchor (if flags.multiLine then .lineEnd flags.carriageReturn else .textEnd)
  | char => return atomPattern flags (.literal char)

/-- Whether a group name may have a character at its start. -/
def isGroupNameStart (char : Char) : Bool :=
  char == '_' || (!char.isDigit && (CharSet.wordChars false).contains char.toNat)

/-- Whether a group name may have a character after its start. -/
def isGroupNamePart (char : Char) : Bool :=
  char == '.' || char == '[' || char == ']' || (CharSet.wordChars false).contains char.toNat

/-- Reads the name of a group and the angle bracket after it; a name is used only once. -/
def groupName : Reader Unit := do
  let name ← takeWhile isGroupNamePart
  require '>'
  let text := String.ofList name
  let names := (← get).names
  if (name.head?).any isGroupNameStart && !names.contains text then
    modify ({ · with names := text :: names })
  else failure

/-- Reads an alternation inside a group and its closing parenthesis. Flags set inside end with
the group. -/
def groupBody (inner : Reader Pattern) (outer : Flags) : Reader (Option Pattern) := do
  let body ← inner
  require ')'
  modify ({ · with flags := outer })
  return some body

/-- How groups that look around start, which are refused. -/
def lookaroundStarts : List (List Char) :=
  [['?', '='], ['?', '!'], ['?', '<', '='], ['?', '<', '!']]

/-- Reads a group after its parenthesis. A group that only sets flags is no pattern. -/
def group (inner : Reader Pattern) : Reader (Option Pattern) := do
  skipFiller
  let outer := (← get).flags
  if lookaroundStarts.any (·.isPrefixOf (← get).rest) then failure
  else if ← take? "?P<" then
    groupName
    groupBody inner outer
  else if ← take? "?<" then
    groupName
    groupBody inner outer
  else if ← take? "?" then
    let letters ← takeWhile fun char => char ≠ ':' ∧ char ≠ ')'
    let flags ← (outer.assignAll? true [] letters : Option Flags)
    modify ({ · with flags := flags })
    if ← take? ")" then
      if letters.isEmpty then failure else return none
    else
      require ':'
      groupBody inner outer
  else groupBody inner outer

/-- Reads a count. -/
def count? : Reader (Option Nat) := do
  let _ ← takeWhile isBlank
  let digits ← takeWhile Char.isDigit
  skipFiller
  let _ ← takeWhile isBlank
  skipFiller
  if digits.isEmpty then return none
  else
    let value := Nat.ofDigitChars 10 digits 0
    if value < 2 ^ 32 then return some value else failure

/-- A pattern repeated between a least and a most number of times, if it is not too large. -/
def repeated (pattern : Pattern) (least : Nat) (most : Option Nat) : Reader Pattern :=
  if sizeLimit < pattern.size * max 1 (most.getD least) then failure
  else match most with
    | none => return copies pattern least (.many pattern true)
    | some most =>
      if most < least then failure
      else return copies pattern least (upTo pattern (most - least))

/-- Reads the counts of a repetition after their opening brace. -/
def counted (pattern : Pattern) : Reader Pattern := do
  skipFiller
  let least ← count?
  if ← take? "," then
    skipFiller
    if ← take? "\x7d" then repeated pattern (← least) none
    else
      let most ← count?
      require '\x7d'
      repeated pattern (← least) (some (← most))
  else
    require '\x7d'
    repeated pattern (← least) (some (← least))

/-- Takes the last item for a repetition; there must be one, and it must be a pattern. -/
def lastItem : List (Option Pattern) → Reader (Pattern × List (Option Pattern))
  | some pattern :: items => return (pattern, items)
  | _ => failure

/-- The sequence of some items, the last one first. -/
def sequenceOf (items : List (Option Pattern)) : Pattern :=
  items.foldl (fun tail item =>
    match item with
    | some pattern => .seq pattern tail
    | none => tail) .empty

/-- Reads items up to the end of an alternative, given the reader of alternations. The items read so
far are given with the last one first. -/
def sequence (inner : Reader Pattern) :
    (bound : Nat) → (items : List (Option Pattern)) → Reader Pattern
  | 0, _ => failure
  | bound + 1, items => do
    skipFiller
    match (← get).rest with
    | [] | '|' :: _ | ')' :: _ => return sequenceOf items
    | '(' :: _ =>
      let _ ← next
      let item ← group inner
      sequence inner bound (item :: items)
    | '[' :: _ =>
      let _ ← next
      let set ← classWithin ((← get).rest.length + 1)
      sequence inner bound (some (.ofSet set) :: items)
    | '\x7b' :: _ =>
      let (last, others) ← lastItem items
      let _ ← next
      let item ← counted last
      skipFiller
      let _ ← take? "?"
      sequence inner bound (some item :: others)
    | '?' :: _ =>
      let (last, others) ← lastItem items
      let _ ← next
      let _ ← take? "?"
      sequence inner bound (some (optional last) :: others)
    | '*' :: _ =>
      let (last, others) ← lastItem items
      let _ ← next
      let _ ← take? "?"
      sequence inner bound (some (.many last true) :: others)
    | '+' :: _ =>
      let (last, others) ← lastItem items
      let _ ← next
      let _ ← take? "?"
      sequence inner bound (some (.many last false) :: others)
    | _ =>
      let item ← primitive
      sequence inner bound (some item :: items)

/-- Reads the alternatives after the first one. -/
def alternatives (inner : Reader Pattern) : (bound : Nat) → (left : Pattern) → Reader Pattern
  | 0, _ => failure
  | bound + 1, left => do
    if ← take? "|" then
      let right ← sequence inner ((← get).rest.length + 1) []
      alternatives inner bound (.alt left right)
    else return left

/-- Reads an alternation with groups nested at most `depth` deep. -/
def alternation : (depth : Nat) → Reader Pattern
  | 0 => failure
  | depth + 1 => do
    let length := (← get).rest.length
    let first ← sequence (alternation depth) (length + 1) []
    alternatives (alternation depth) (length + 1) first

end Reader

/-- The pattern that a text stands for. -/
def ofString? (text : String) : Option Pattern := do
  let chars := text.toList
  let (pattern, state) ← Reader.alternation (chars.length + 1) ⟨chars, .initial, []⟩
  if state.rest.isEmpty then return pattern else none

end HostScript.Pattern
