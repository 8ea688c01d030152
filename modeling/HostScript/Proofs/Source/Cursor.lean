import HostScript.Proofs.Source.Actions
import HostScript.Proofs.Source.Nonterminals
import HostScript.Proofs.Source.Soundness

/-!
# The cursor while parsing

A scanner is inside its text if its cursor is not past the end. Every parser of the grammar gets to
what it leaves by actions that keep the scanner inside the text (`Nonterminal.parser_walks`). The
statements of a program are read up to the end of the text, so the end is never missed after them
(`program_eq_block`). Together with well-founded recursion and the characters that each success
takes this is `parsing_progress`: read that first.
-/

namespace HostScript

namespace Scanner

/-! ## Inside the text -/

/-- The cursor stands inside the text or at its end. -/
structure Inside (scanner : Scanner) : Prop where
  coherent : scanner.Coherent
  offset_le : scanner.offset ≤ scanner.text.length

/-- Inside the text, the rest is as long as the text from the cursor on. -/
theorem Inside.length_rest {scanner : Scanner} (h : scanner.Inside) :
    scanner.offset + scanner.rest.length = scanner.text.length := by
  rw [h.coherent, List.length_drop]
  have := h.offset_le
  omega

/-- What a scanner reaches is inside its text. -/
theorem Inside.of_reaches {start next : Scanner} (h : start.Inside)
    (hreaches : start.Reaches next) : next.Inside := by
  have hlength := h.length_rest
  obtain ⟨htext, count, hle, hoffset, hrest⟩ := hreaches
  constructor
  · unfold Coherent
    rw [hrest, h.coherent, htext, hoffset, List.drop_drop]
  · rw [htext, hoffset]
    omega

/-- Fewer characters are left further right. -/
theorem Reaches.offset_add {start next : Scanner} (h : start.Reaches next) {gain : Nat}
    (hgain : next.rest.length + gain ≤ start.rest.length) :
    start.offset + gain ≤ next.offset := by
  obtain ⟨-, count, -, hoffset, hrest⟩ := h
  rw [hrest, List.length_drop] at hgain
  omega

/-- No action but a seek leaves the text or moves back. -/
theorem Action.reaches (action : Action) (scanner : Scanner)
    (hseek : ∀ offset, action ≠ .seek offset) : scanner.Reaches (action.perform scanner) := by
  have hsymbol : ∀ wanted, scanner.Reaches (Parser.symbol wanted scanner).2 := by
    intro wanted
    unfold Parser.symbol
    split
    · next hstarts => exact reaches_advance (Parser.length_le_of_startsWith hstarts)
    · exact reaches_expectAt _ _ _
  cases action with
  | skipBlanks => exact reaches_skipBlanks scanner
  | seek offset => exact absurd rfl (hseek offset)
  | expect label => exact reaches_expectAt _ _ _
  | char wanted => exact hsymbol _
  | symbol wanted => exact hsymbol wanted
  | assignSign => exact Parser.assignSign_lexeme.reaches scanner
  | word wanted =>
      show scanner.Reaches (Parser.word wanted scanner).2
      unfold Parser.word
      split
      · next hstarts =>
          have hstarts := (Bool.and_eq_true_iff.1 hstarts).1
          exact reaches_advance (Parser.length_le_of_startsWith hstarts)
      · exact reaches_expectAt _ _ _
  | checkWord wanted => exact .refl scanner
  | identifier => exact Parser.identifier_lexeme.reaches scanner
  | string => exact Parser.string_lexeme.reaches scanner
  | number => exact Parser.number_lexeme.reaches scanner

/-- Actions stay inside the text, unless they seek a place outside it. -/
theorem Inside.perform {scanner : Scanner} (h : scanner.Inside) (action : Action)
    (hseek : ∀ offset, action = .seek offset → offset ≤ scanner.text.length) :
    (action.perform scanner).Inside := by
  by_cases hother : ∀ offset, action ≠ .seek offset
  · exact h.of_reaches (action.reaches scanner hother)
  · obtain ⟨offset, hnot⟩ := Classical.not_forall.1 hother
    obtain rfl := Classical.not_not.1 hnot
    exact ⟨rfl, hseek offset rfl⟩

/-! ## Ways inside the text -/

/-- A quoted character is not the label for the end of the text. -/
theorem quote_ne_endOfInput (text : String) : Text.quote text ≠ "end of input" := by
  intro h
  have hchars := congrArg String.toList h
  simp [Text.quote] at hchars

/-- What a lexeme misses is not the end of the text. -/
theorem Action.label_ne {action : Action} {scanner : Scanner} {failure : Failure}
    (hexpect : ∀ label, action ≠ .expect label) (h : action.failure? scanner = some failure) :
    failure.2 ≠ "end of input" := by
  have hrefusal : ∀ {α : Type} {parser : Parser α} {wanted : Failure},
      refusal parser scanner wanted = some failure → failure = wanted := by
    intro α parser wanted hrefused
    unfold refusal at hrefused
    split at hrefused
    · cases hrefused
    · exact (Option.some.inj hrefused).symm
  have hkinds : ∀ label ∈ ["identifier", "string", "number"], label ≠ "end of input" := by decide
  cases action with
  | skipBlanks | seek | checkWord => cases h
  | expect label => exact absurd rfl (hexpect label)
  | char wanted => exact hrefusal h ▸ quote_ne_endOfInput _
  | symbol wanted => exact hrefusal h ▸ quote_ne_endOfInput _
  | assignSign => exact hrefusal h ▸ quote_ne_endOfInput _
  | word wanted => exact hrefusal h ▸ quote_ne_endOfInput _
  | identifier => exact hrefusal h ▸ hkinds "identifier" (by simp)
  | string =>
      rw [hrefusal h]
      split
      · exact quote_ne_endOfInput _
      · exact hkinds "string" (by simp)
  | number =>
      rw [hrefusal h, apply_ite Prod.snd, ite_self]
      exact hkinds "number" (by simp)

/-- One scanner becomes another one by some actions. After any number of them the cursor is inside
the text, and none of them misses the end of the text. -/
def Walks (start next : Scanner) : Prop :=
  ∃ actions, next = start.performAll actions ∧
    (∀ count, (start.performAll (actions.take count)).Inside) ∧
    ∀ failure ∈ failures actions start, failure.2 ≠ "end of input"

namespace Walks

variable {first second third : Scanner}

/-- At the end of a walk the cursor is inside the text. -/
theorem inside (h : first.Walks second) : second.Inside := by
  obtain ⟨actions, rfl, hinside, -⟩ := h
  have hlast := hinside actions.length
  rwa [List.take_length] at hlast

/-- A scanner inside the text walks to itself. -/
theorem refl (h : first.Inside) : first.Walks first :=
  ⟨[], rfl, fun _ => by rwa [List.take_nil], fun _ hfailure => absurd hfailure List.not_mem_nil⟩

/-- One action is a walk if it neither seeks beyond the end nor records a label by hand. -/
theorem perform (h : first.Inside) (action : Action)
    (hseek : ∀ offset, action = .seek offset → offset ≤ first.text.length)
    (hexpect : ∀ label, action ≠ .expect label) : first.Walks (action.perform first) := by
  refine ⟨[action], rfl, fun count => ?_, fun failure hfailure => ?_⟩
  · cases count with
    | zero => exact h
    | succ count =>
        rw [List.take_succ_cons, List.take_nil]
        exact h.perform action hseek
  · rw [failures, failures, List.append_nil, Option.mem_toList] at hfailure
    exact Action.label_ne hexpect hfailure

/-- Walks can be taken one after the other. -/
theorem trans (h : first.Walks second) (hnext : second.Walks third) : first.Walks third := by
  obtain ⟨actions, rfl, hinside, hlabels⟩ := h
  obtain ⟨more, rfl, hmore, hmoreLabels⟩ := hnext
  refine ⟨actions ++ more, (List.foldl_append ..).symm, fun count => ?_, fun failure hfailure => ?_⟩
  · rcases Nat.le_total count actions.length with hle | hle
    · rw [List.take_append_of_le_length hle]
      exact hinside count
    · obtain ⟨beyond, rfl⟩ := Nat.exists_eq_add_of_le hle
      rw [List.take_length_add_append]
      show ((actions ++ more.take beyond).foldl _ first).Inside
      rw [List.foldl_append]
      exact hmore beyond
  · rw [failures_append] at hfailure
    rcases List.mem_append.1 hfailure with hfailure | hfailure
    · exact hlabels failure hfailure
    · exact hmoreLabels failure hfailure

/-- A walk is some actions. -/
theorem becomes (h : first.Walks second) : first.Becomes second := by
  obtain ⟨actions, heq, -⟩ := h
  exact ⟨actions, heq⟩

/-- Going back to where a scanner came from stays inside the text. -/
theorem rewind (h : first.Walks second) (hfirst : first.Inside) :
    first.Walks (second.rewind first) := by
  have htext := h.becomes.text_eq hfirst.coherent
  rw [hfirst.coherent.rewind_eq_seek htext]
  refine h.trans (perform h.inside (.seek first.offset) (fun offset hoffset => ?_) nofun)
  cases hoffset
  exact htext ▸ hfirst.offset_le

end Walks

end Scanner

namespace Parser

open Scanner (Action Inside Walks)

variable {α β σ : Type}

/-! ## Parsers that stay inside the text -/

/-- The parser gets to what it leaves inside the text. -/
def StaysInside (p : Parser α) : Prop :=
  ∀ scanner : Scanner, scanner.Inside → scanner.Walks (p scanner).2

namespace StaysInside

variable {p : Parser α}

/-- A lexeme is one action. -/
theorem of_action (action : Action) (h : ∀ scanner, (p scanner).2 = action.perform scanner)
    (hseek : ∀ offset, action ≠ .seek offset) (hexpect : ∀ label, action ≠ .expect label) :
    StaysInside p := by
  intro scanner hinside
  rw [h]
  exact .perform hinside action (fun offset hoffset => absurd hoffset (hseek offset)) hexpect

/-- What follows a choice goes on from where its first parser stopped. -/
theorem of_commit {yes : α → Parser β} {no : Parser β} {start scanner : Scanner}
    (h : start.Walks (p scanner).2) (hyes : ∀ value, StaysInside (yes value))
    (hno : ∀ next, start.Walks next → start.Walks (no next).2) :
    start.Walks (commit p yes no scanner).2 := by
  unfold Parser.commit
  split
  · next value next heq =>
      rw [heq] at h
      exact h.trans (hyes value next h.inside)
  · next next heq =>
      rw [heq] at h
      exact hno next h

/-- A choice stays inside the text if what it is made of does. -/
theorem commit {yes : α → Parser β} {no : Parser β} (h : StaysInside p)
    (hyes : ∀ value, StaysInside (yes value)) (hno : StaysInside no) :
    StaysInside (commit p yes no) := fun scanner hinside =>
  of_commit (h scanner hinside) hyes fun next hnext => hnext.trans (hno next hnext.inside)

/-- A choice after blanks stays inside the text if what it is made of does. -/
theorem afterBlanks {yes : α → Parser β} {no : Parser β} (h : StaysInside p)
    (hyes : ∀ value, StaysInside (yes value)) (hno : StaysInside no) :
    StaysInside (afterBlanks p yes no) := by
  intro scanner hinside
  have hskip : scanner.Walks scanner.skipBlanks := .perform hinside .skipBlanks nofun nofun
  rw [afterBlanks_apply]
  refine of_commit (hskip.trans (h _ hskip.inside)) hyes fun next hnext => ?_
  have hback := hnext.rewind hinside
  exact hback.trans (hno _ hback.inside)

end StaysInside

/-- All parsers of expressions and statements stay inside the text. -/
theorem staysInside_closed : Closed StaysInside where
  succeed _ _ hinside := .refl hinside
  fail _ hinside := .refl hinside
  commit := .commit
  afterBlanks := .afterBlanks
  fix hbody state scanner := fix_run
    (motive := fun _ scanner result => scanner.Inside → scanner.Walks result.2)
    (fun _ _ hinside => .refl hinside) hbody state scanner
  skipBlanks := .of_action .skipBlanks (fun _ => rfl) nofun nofun
  symbol spelling := .of_action (.symbol spelling) (fun _ => rfl) nofun nofun
  word spelling := .of_action (.word spelling) (fun _ => rfl) nofun nofun
  assignSign := .of_action .assignSign (fun _ => rfl) nofun nofun
  identifier := .of_action .identifier (fun _ => rfl) nofun nofun
  string := .of_action .string (fun _ => rfl) nofun nofun
  number := .of_action .number (fun _ => rfl) nofun nofun
  atBlockEnd _ _ hinside := .refl hinside

/-! ## The end of a program -/

/-- A block is read up to where it may end. -/
theorem block_success {p : Parser Statement} {terminators : List String} {scanner next : Scanner}
    {found : List Statement} (h : block p terminators scanner = (some found, next)) :
    (next.isAtEnd || terminators.any next.startsWithWord) = true := by
  refine fix_success (motive := fun _ _ _ next =>
    (next.isAtEnd || terminators.any next.startsWithWord) = true) ?_ h
  intro more hmore _ scanner found next hbody
  obtain ⟨_, start, -, hbody⟩ := bind_success hbody
  obtain ⟨atEnd, after, hend, hbody⟩ := bind_success hbody
  cases hend
  split at hbody
  · next hend =>
      cases hbody
      exact hend
  · obtain ⟨first, rest, -, hbody⟩ := bind_success hbody
    obtain ⟨others, last, hothers, hbody⟩ := bind_success hbody
    cases hbody
    exact hmore () _ _ _ hothers

/-- After the statements of a program the text has ended, so its end is never missed. -/
theorem program_eq_block : program = (do return ⟨← block statement []⟩) := by
  funext scanner
  show commit (block statement []) _ fail scanner = commit (block statement []) _ fail scanner
  unfold commit
  split
  · next found next heq =>
      have hend : next.isAtEnd = true := by simpa using block_success heq
      show commit endOfText _ fail next = _
      unfold commit endOfText
      rw [if_pos hend]
  · rfl

namespace Nonterminal

/-- All parsers of the grammar stay inside the text. -/
theorem parser_walks (part : Nonterminal α) : StaysInside part.parser := by
  have hclosed := staysInside_closed
  have hterm := hclosed.term hclosed.expression
  have hblock := hclosed.block hclosed.statement
  cases part with
  | program =>
      show StaysInside Parser.program
      rw [program_eq_block]
      exact hclosed.map (hblock []) _
  | block terminators => exact hblock terminators
  | statement => exact hclosed.statement
  | branch => exact hclosed.branch hclosed.statement
  | forEach => exact hclosed.forEach hclosed.statement
  | tier level => exact hclosed.levels (hclosed.negation hterm) _
  | operands level left =>
      exact hclosed.operands (hclosed.levels (hclosed.negation hterm) _) _ left
  | term => exact hterm
  | elements close => exact hclosed.elements hclosed.expression close
  | moreElements => exact hclosed.moreElements hclosed.expression
  | chain base => exact hclosed.chain hclosed.expression base

/-- A success moves the cursor forward by what it gains. -/
theorem offset_add_gain (part : Nonterminal α) {scanner next : Scanner} {found : α}
    (h : part.parser scanner = (some found, next)) : scanner.offset + part.gain ≤ next.offset := by
  obtain ⟨-, hreaches, hgain⟩ := part.parser_agree scanner (Nat.lt_succ_self _)
  rw [h] at hreaches hgain
  exact hreaches.offset_add (hgain rfl)

end Nonterminal

/-- Parsing terminates, by recursion to calls with fewer characters left or at a lower level of the
grammar only, because a success moves the cursor forward and nothing moves it past the end of the
text. This holds wherever the cursor stands inside the text, and whatever was recorded before. The
statements of a program are read up to the end of the text, so its end is never missed. -/
theorem parsing_progress {scanner : Scanner} (h : scanner.Inside) :
    (∀ (otherwise : Parsers) {α : Type} (part : Nonterminal α),
      part.descend otherwise scanner = part.parser scanner) ∧
    (∀ found next, statement scanner = (some found, next) → scanner.offset < next.offset) ∧
    (∀ found next, expression scanner = (some found, next) → scanner.offset < next.offset) ∧
    (∀ level found next, tier expression level scanner = (some found, next) →
      scanner.offset < next.offset) ∧
    (∀ found next, term expression scanner = (some found, next) →
      scanner.offset < next.offset) ∧
    (∀ close found next, elements expression close scanner = (some found, next) →
      scanner.offset < next.offset) ∧
    (∀ base, scanner.offset ≤ (chain expression base scanner).2.offset) ∧
    (∀ action : Action, (∀ offset, action = .seek offset → offset ≤ scanner.text.length) →
      (action.perform scanner).Inside) ∧
    (∀ {α : Type} (part : Nonterminal α), scanner.Walks (part.parser scanner).2) ∧
    (∀ found next, block statement [] scanner = (some found, next) →
      next.offset = scanner.text.length) ∧
    program scanner = (do return ⟨← block statement []⟩ : Parser Program) scanner := by
  have hforward : ∀ level found next, tier expression level scanner = (some found, next) →
      scanner.offset < next.offset := fun level _ _ hfound =>
    (Nonterminal.tier level).offset_add_gain hfound
  refine ⟨fun otherwise _ part => part.descend_eq otherwise scanner,
    fun _ _ hfound => Nonterminal.statement.offset_add_gain hfound, ?_, hforward,
    fun _ _ hfound => Nonterminal.term.offset_add_gain hfound,
    fun close _ _ hfound => (Nonterminal.elements close).offset_add_gain hfound, ?_,
    h.perform, fun part => part.parser_walks scanner h, ?_, congrFun program_eq_block scanner⟩
  · intro found next hfound
    rw [← Nonterminal.tier_zero] at hfound
    exact hforward 0 found next hfound
  · intro base
    obtain ⟨-, ⟨-, count, -, hoffset, -⟩, -⟩ :=
      (Nonterminal.chain base).parser_agree scanner (Nat.lt_succ_self _)
    exact Nat.le_trans (Nat.le_add_right _ count) (Nat.le_of_eq hoffset.symm)
  · intro found next hfound
    have hwalks := (Nonterminal.block []).parser_walks scanner h
    rw [show (Nonterminal.block []).parser scanner = (some found, next) from hfound] at hwalks
    have hrest : next.rest = [] := by simpa [Scanner.isAtEnd] using block_success hfound
    have hlength := hwalks.inside.length_rest
    rwa [hrest, hwalks.becomes.text_eq h.coherent, List.length_nil, Nat.add_zero] at hlength

/-- In the middle of a text, after the end of a text was missed at its fourth character. -/
def inTheMiddle : Scanner :=
  ((Scanner.ofString "] x = f(a) ").seek 2).expectAt 3 "end of input"

/-- The statement in the middle of the text. -/
def middleStatement : Statement :=
  .assign "x" (.call "f" [.var "a"])

/-- A statement is read from the middle of a text by recursion, it ends before the blank at the end
of the text, and the block of statements ends after it. -/
theorem parsing_progress_inTheMiddle :
    inTheMiddle.Inside ∧
    (Nonterminal.program.descend (fun _ _ => fail) inTheMiddle).1 =
      some ⟨[middleStatement]⟩ ∧
    (inTheMiddle.offset < (statement inTheMiddle).2.offset ∧
      (statement inTheMiddle).2.offset = 10) ∧
    (block statement [] inTheMiddle).2.offset = inTheMiddle.text.length := by
  have hinside : inTheMiddle.Inside := ⟨rfl, by decide⟩
  have hread : statement inTheMiddle = (some middleStatement, (statement inTheMiddle).2) := by rfl
  have hblock : block statement [] inTheMiddle =
      (some [middleStatement], (block statement [] inTheMiddle).2) := by rfl
  obtain ⟨hdescend, hforward, -, -, -, -, -, -, -, hend, -⟩ := parsing_progress hinside
  refine ⟨hinside, ?_, ⟨hforward _ _ hread, by rfl⟩, hend _ _ hblock⟩
  rw [hdescend]
  rfl

end Parser

end HostScript
