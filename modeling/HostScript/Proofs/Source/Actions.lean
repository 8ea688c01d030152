import HostScript.Proofs.Source.Hereditary
import HostScript.Proofs.Source.History

/-!
# Parsing is scanning

All that a parser of the grammar does with a scanner is a sequence of actions (`program_performs`),
so what is true of every history of a scanner is true of every parse. A parse of a program that
fails has a failure in its history, so it leaves something that was expected (`program_misses`).
-/

namespace HostScript

namespace Scanner

/-- The failures of some actions and more actions. -/
theorem failures_append (first second : List Action) (scanner : Scanner) :
    failures (first ++ second) scanner =
      failures first scanner ++ failures second (scanner.performAll first) := by
  induction first generalizing scanner with
  | nil => rfl
  | cons action first ih =>
      rw [List.cons_append, failures, ih, failures, List.append_assoc]
      rfl

/-- Some failure is the furthest one. -/
theorem exists_mem_furthestOf {failures : List Failure} (h : failures ≠ []) :
    ∃ failure ∈ failures, failure.1 = furthestOf failures := by
  induction failures with
  | nil => exact absurd rfl h
  | cons first failures ih =>
      have hmax : furthestOf (first :: failures) = max first.1 (furthestOf failures) := rfl
      by_cases hle : furthestOf failures ≤ first.1
      · exact ⟨first, List.mem_cons_self, by rw [hmax, Nat.max_eq_left hle]⟩
      · have hne : failures ≠ [] := by
          rintro rfl
          exact hle (Nat.zero_le _)
        obtain ⟨failure, hmem, heq⟩ := ih hne
        exact ⟨failure, List.mem_cons_of_mem _ hmem,
          by rw [hmax, Nat.max_eq_right (Nat.le_of_not_le hle), heq]⟩

/-- After a failure something is recorded. -/
theorem Records.expected_ne_nil {failures : List Failure} {scanner : Scanner}
    (h : Records failures scanner) (hne : failures ≠ []) : scanner.expected ≠ [] := by
  obtain ⟨⟨offset, label⟩, hmem, hoffset⟩ := exists_mem_furthestOf hne
  rw [← h.furthest] at hoffset
  exact List.ne_nil_of_mem ((h.mem_expected label).2 (hoffset ▸ hmem))

/-- One scanner becomes another one by some actions. -/
def Becomes (start next : Scanner) : Prop :=
  ∃ actions, next = start.performAll actions

/-- One scanner becomes another one by some actions of which at least one fails. -/
def Misses (start next : Scanner) : Prop :=
  ∃ actions, next = start.performAll actions ∧ failures actions start ≠ []

/-- Going back to where another scanner of the text stands is a seek. -/
theorem Coherent.rewind_eq_seek {first second : Scanner} (h : first.Coherent)
    (htext : second.text = first.text) : second.rewind first = second.seek first.offset := by
  unfold Scanner.rewind Scanner.seek
  rw [h, htext]

namespace Becomes

variable {first second third : Scanner}

/-- No action leaves a scanner as it is. -/
theorem refl (scanner : Scanner) : scanner.Becomes scanner :=
  ⟨[], rfl⟩

/-- One action is some actions. -/
theorem perform (action : Action) (scanner : Scanner) :
    scanner.Becomes (action.perform scanner) :=
  ⟨[action], rfl⟩

/-- Actions can be performed after other actions. -/
theorem trans (h : first.Becomes second) (hnext : second.Becomes third) :
    first.Becomes third := by
  obtain ⟨actions, rfl⟩ := h
  obtain ⟨more, rfl⟩ := hnext
  exact ⟨actions ++ more, (List.foldl_append ..).symm⟩

/-- Actions keep a scanner coherent. -/
theorem coherent (h : first.Becomes second) (hcoherent : first.Coherent) : second.Coherent := by
  obtain ⟨actions, rfl⟩ := h
  exact (hcoherent.performAll actions).1

/-- Actions leave the text. -/
theorem text_eq (h : first.Becomes second) (hcoherent : first.Coherent) :
    second.text = first.text := by
  obtain ⟨actions, rfl⟩ := h
  exact (hcoherent.performAll actions).2

/-- Moving back to where a scanner came from is an action. -/
theorem rewind (h : first.Becomes second) (hcoherent : first.Coherent) :
    second.Becomes (second.rewind first) :=
  hcoherent.rewind_eq_seek (h.text_eq hcoherent) ▸ perform (.seek first.offset) second

end Becomes

namespace Misses

variable {first second third : Scanner}

/-- Actions of which one fails are some actions. -/
theorem becomes (h : first.Misses second) : first.Becomes second := by
  obtain ⟨actions, heq, -⟩ := h
  exact ⟨actions, heq⟩

/-- A failure is not forgotten. -/
theorem trans (h : first.Misses second) (hnext : second.Becomes third) :
    first.Misses third := by
  obtain ⟨actions, rfl, hfailed⟩ := h
  obtain ⟨more, rfl⟩ := hnext
  refine ⟨actions ++ more, (List.foldl_append ..).symm, ?_⟩
  rw [failures_append]
  exact List.append_ne_nil_of_left_ne_nil hfailed _

/-- Actions before a failure do not undo it. -/
theorem after (hnext : second.Misses third) (h : first.Becomes second) :
    first.Misses third := by
  obtain ⟨actions, rfl⟩ := h
  obtain ⟨more, rfl, hfailed⟩ := hnext
  refine ⟨actions ++ more, (List.foldl_append ..).symm, ?_⟩
  rw [failures_append]
  exact List.append_ne_nil_of_right_ne_nil _ hfailed

end Misses

end Scanner

namespace Parser

open Scanner (Action Coherent Becomes Misses)

variable {α β σ : Type}

/-- What a parser that fails at once has, and the body has whenever the nested calls do, a recursive
parser has. -/
theorem fix_run {motive : σ → Scanner → Option α × Scanner → Prop}
    {body : (σ → Parser α) → σ → Parser α}
    (hfail : ∀ state scanner, motive state scanner (none, scanner))
    (hbody : ∀ f : σ → Parser α, (∀ state scanner, motive state scanner (f state scanner)) →
      ∀ state scanner, motive state scanner (body f state scanner))
    (state : σ) (scanner : Scanner) : motive state scanner (fix body state scanner) := by
  have hunroll : ∀ depth state scanner,
      motive state scanner (unroll body depth state scanner) := by
    intro depth
    induction depth with
    | zero => exact hfail
    | succ depth ih => exact hbody _ ih
  exact hunroll _ state scanner

/-! ## Parsers that perform actions -/

/-- What the parser leaves is what some actions leave. -/
def Performs (p : Parser α) : Prop :=
  ∀ scanner : Scanner, scanner.Coherent → scanner.Becomes (p scanner).2

namespace Performs

variable {p : Parser α}

/-- A lexeme is one action. -/
theorem of_action (action : Action) (h : ∀ scanner, (p scanner).2 = action.perform scanner) :
    Performs p := by
  intro scanner _
  rw [h]
  exact .perform action scanner

/-- A choice performs actions if what it is made of does. -/
theorem commit {yes : α → Parser β} {no : Parser β} (h : Performs p)
    (hyes : ∀ value, Performs (yes value)) (hno : Performs no) :
    Performs (commit p yes no) := by
  intro scanner hcoherent
  have hfirst := h scanner hcoherent
  unfold Parser.commit
  split
  · next value next heq =>
      rw [heq] at hfirst
      exact hfirst.trans (hyes value next (hfirst.coherent hcoherent))
  · next next heq =>
      rw [heq] at hfirst
      exact hfirst.trans (hno next (hfirst.coherent hcoherent))

/-- A choice after blanks performs actions if what it is made of does. -/
theorem afterBlanks {yes : α → Parser β} {no : Parser β} (h : Performs p)
    (hyes : ∀ value, Performs (yes value)) (hno : Performs no) :
    Performs (afterBlanks p yes no) := by
  intro scanner hcoherent
  have hskip : scanner.Becomes scanner.skipBlanks := .perform .skipBlanks scanner
  have hfirst := hskip.trans (h _ (hskip.coherent hcoherent))
  rw [afterBlanks_apply]
  unfold Parser.commit
  split
  · next value next heq =>
      rw [heq] at hfirst
      exact hfirst.trans (hyes value next (hfirst.coherent hcoherent))
  · next next heq =>
      rw [heq] at hfirst
      have hback := hfirst.trans (hfirst.rewind hcoherent)
      exact hback.trans (hno _ (hback.coherent hcoherent))

/-- A recursion performs actions if its body does. -/
theorem fix {body : (σ → Parser α) → σ → Parser α}
    (hbody : ∀ f : σ → Parser α, (∀ state, Performs (f state)) → ∀ state, Performs (body f state))
    (state : σ) : Performs (fix body state) :=
  fix_run (motive := fun _ scanner result => scanner.Coherent → scanner.Becomes result.2)
    (fun _ scanner _ => .refl scanner) hbody state

end Performs

/-- All parsers of the grammar perform actions. -/
theorem performs_hereditary : Hereditary Performs where
  succeed _ scanner _ := .refl scanner
  fail scanner _ := .refl scanner
  commit := .commit
  afterBlanks := .afterBlanks
  fix := .fix
  skipBlanks := .of_action .skipBlanks fun _ => rfl
  symbol spelling := .of_action (.symbol spelling) fun _ => rfl
  word spelling := .of_action (.word spelling) fun _ => rfl
  assignSign := .of_action .assignSign fun _ => rfl
  identifier := .of_action .identifier fun _ => rfl
  string := .of_action .string fun _ => rfl
  number := .of_action .number fun _ => rfl
  atBlockEnd _ scanner _ := .refl scanner
  endOfText scanner _ := by
    unfold endOfText
    split
    · exact .refl scanner
    · exact .perform (.expect _) scanner

/-- Reading a program is a sequence of actions. -/
theorem program_performs : Performs program :=
  performs_hereditary.program

/-! ## Parsers that always miss something -/

section Misses

variable {p : Parser α} {scanner : Scanner}

/-- What was missed first is not forgotten. -/
theorem misses_bind {f : α → Parser β} (hcoherent : scanner.Coherent)
    (h : scanner.Misses (p scanner).2) (hf : ∀ value, Performs (f value)) :
    scanner.Misses ((p >>= f) scanner).2 := by
  show scanner.Misses (commit p f fail scanner).2
  unfold commit
  split
  · next value next heq =>
      rw [heq] at h
      exact h.trans (hf value next (h.becomes.coherent hcoherent))
  · next next heq => rwa [heq] at h

/-- Something is missed after blanks. -/
theorem misses_skipBlanks {f : Unit → Parser α}
    (h : scanner.skipBlanks.Misses (f () scanner.skipBlanks).2) :
    scanner.Misses ((skipBlanks >>= f) scanner).2 :=
  h.after (.perform .skipBlanks scanner)

/-- A word that decides how to go on is missed, or something else after it is. -/
theorem misses_commit_word {wanted : String} {yes : Unit → Parser α} {no : Parser α}
    (hcoherent : scanner.Coherent)
    (hyes : ∀ next, word wanted scanner = (some (), next) → next.Misses (yes () next).2)
    (hno : Performs no) : scanner.Misses (commit (word wanted) yes no scanner).2 := by
  unfold commit
  split
  · next value next heq =>
      have hword := performs_hereditary.word wanted scanner hcoherent
      rw [heq] at hword
      exact (hyes next heq).after hword
  · next next heq =>
      have hword : scanner.Misses next := by
        refine ⟨[.word wanted], ?_, ?_⟩
        · show next = (word wanted scanner).2
          rw [heq]
        · simp [Scanner.failures, Action.failure?, Action.refusal, heq]
      exact hword.trans (hno next (hword.becomes.coherent hcoherent))

end Misses

/-- Whatever the parser does, it looks for something that is not there. -/
def Complains (p : Parser α) : Prop :=
  ∀ scanner : Scanner, scanner.Coherent → scanner.Misses (p scanner).2

/-- The last of some negations is followed by something else. -/
theorem negation_complains {p : Parser Expr} (h : Performs p)
    (hagree : ∀ count, Agree 1 count p p) : Complains (negation p) := by
  intro scanner
  induction hlength : scanner.rest.length using Nat.strong_induction_on generalizing scanner with
  | _ length ih =>
      intro hcoherent
      rw [negation_eq hagree]
      refine misses_commit_word hcoherent (fun next hnext => misses_skipBlanks ?_) h
      have hword := performs_hereditary.word "not" scanner hcoherent
      rw [hnext] at hword
      have hnextCoherent := (hword.trans (.perform .skipBlanks next)).coherent hcoherent
      have hshorter : next.skipBlanks.rest.length < length :=
        hlength ▸ Nat.lt_of_le_of_lt next.reaches_skipBlanks.length_le
          ((word_lexeme (by decide)).takes hnext)
      exact misses_bind hnextCoherent (ih _ hshorter _ rfl hnextCoherent) fun _ =>
        performs_hereditary.succeed _

/-- All levels of operators complain if the operands do. -/
theorem Complains.levels {p : Parser Expr} (hp : Complains p) (h : Performs p)
    (levels : List (List Operator)) : Complains (levels.foldr Parser.binaryLevel p) := by
  induction levels with
  | nil => exact hp
  | cons operators levels ih =>
      intro scanner hcoherent
      rw [List.foldr_cons, binaryLevel_eq_operands]
      exact misses_bind hcoherent (ih scanner hcoherent) fun _ =>
        performs_hereditary.operands (performs_hereditary.levels h levels) _ _

/-- An expression always looks for something that is not there, such as one more operator. -/
theorem expression_complains : Complains expression := by
  have hterm := performs_hereditary.term performs_hereditary.expression
  have hnegation := performs_hereditary.negation hterm
  rw [expression_eq]
  exact (negation_complains hterm fun _ => term_agree).levels hnegation operatorLevels

/-- A statement always looks for something that is not there, such as one more operator. -/
theorem statement_complains : Complains statement := by
  intro scanner hcoherent
  have hstatement := performs_hereditary.statement
  rw [statement_eq]
  refine misses_commit_word hcoherent (fun next hnext => ?_) ?_
  · have hword := performs_hereditary.word "if" scanner hcoherent
    rw [hnext] at hword
    have hnextCoherent := (hword.trans (.perform .skipBlanks next)).coherent hcoherent
    obtain ⟨afterTest, hsplit, hafter⟩ := performs_hereditary.branchBody_split hstatement
      fun _ => performs_hereditary.branch hstatement
    rw [branch_eq, hsplit]
    refine misses_skipBlanks (misses_bind hnextCoherent ?_ hafter)
    exact expression_complains _ hnextCoherent
  · refine .commit (performs_hereditary.word "for")
      (fun _ => performs_hereditary.forEach hstatement) ?_
    exact performs_hereditary.bind performs_hereditary.identifier
      performs_hereditary.simpleStatement

/-- A block that is not read misses something. -/
theorem block_misses {scanner next : Scanner} {terminators : List String}
    (hcoherent : scanner.Coherent) (h : block statement terminators scanner = (none, next)) :
    scanner.Misses next := by
  have hskip : scanner.Becomes scanner.skipBlanks := .perform .skipBlanks scanner
  have hstart := hskip.coherent hcoherent
  rw [block_eq] at h
  change (if (scanner.skipBlanks.isAtEnd || _) = true then succeed [] else _)
    scanner.skipBlanks = _ at h
  split at h
  · cases h
  · have hblock := performs_hereditary.block performs_hereditary.statement terminators
    have hmissed := misses_bind hstart (statement_complains _ hstart) fun first =>
      performs_hereditary.map hblock (first :: ·)
    have hnext : _ = next := congrArg Prod.snd h
    rw [← hnext]
    exact hmissed.after hskip

/-- A failure of a sequence is a failure of one of its parts. -/
theorem bind_failure {p : Parser α} {f : α → Parser β} {scanner next : Scanner}
    (h : (p >>= f) scanner = (none, next)) :
    p scanner = (none, next) ∨
      ∃ value mid, p scanner = (some value, mid) ∧ f value mid = (none, next) := by
  change commit p f fail scanner = _ at h
  unfold commit at h
  split at h
  · next value mid heq => exact .inr ⟨value, mid, heq, h⟩
  · next mid heq =>
      cases h
      exact .inl heq

/-- A program that is not read misses something. -/
theorem program_misses {scanner next : Scanner} (hcoherent : scanner.Coherent)
    (h : program scanner = (none, next)) : scanner.Misses next := by
  rcases bind_failure h with hblock | ⟨statements, finish, hblock, h⟩
  · exact block_misses hcoherent hblock
  · have hbecomes := performs_hereditary.block performs_hereditary.statement [] scanner hcoherent
    rw [hblock] at hbecomes
    have hend : endOfText finish = (none, next) := by
      rcases bind_failure h with hend | ⟨_, _, _, hreturn⟩
      · exact hend
      · cases hreturn
    unfold endOfText at hend
    split at hend
    · cases hend
    · cases hend
      have hmissed : finish.Misses (finish.expect "end of input") :=
        ⟨[.expect "end of input"], rfl, List.cons_ne_nil _ _⟩
      exact hmissed.after hbecomes

end Parser

end HostScript
