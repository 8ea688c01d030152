import HostScript.Proofs.Source.Progress

/-!
# Properties of all parsers of the grammar

A property of parsers is closed if every lexeme has it and if parsers that are combined from
parsers with the property have it too. The induction over the grammar is done here once: a closed
property holds of the parsers of expressions (`Closed.expression`) and of statements
(`Closed.statement`), and if the end of a text has it as well, it is hereditary and holds of the
parser of programs (`Hereditary.program`).
-/

namespace HostScript.Parser

/-- A property that all lexemes have and that is closed under all ways to combine parsers. -/
structure Closed (P : ∀ {α : Type}, Parser α → Prop) : Prop where
  succeed {α : Type} (value : α) : P (succeed value)
  fail {α : Type} : P (fail : Parser α)
  commit {α β : Type} {p : Parser α} {yes : α → Parser β} {no : Parser β} : P p →
    (∀ value, P (yes value)) → P no → P (commit p yes no)
  afterBlanks {α β : Type} {p : Parser α} {yes : α → Parser β} {no : Parser β} : P p →
    (∀ value, P (yes value)) → P no → P (afterBlanks p yes no)
  fix {α σ : Type} {body : (σ → Parser α) → σ → Parser α} :
    (∀ f : σ → Parser α, (∀ state, P (f state)) → ∀ state, P (body f state)) →
    ∀ state, P (fix body state)
  skipBlanks : P skipBlanks
  symbol (spelling : String) : P (symbol spelling)
  word (spelling : String) : P (word spelling)
  assignSign : P assignSign
  identifier : P identifier
  string : P string
  number : P number
  atBlockEnd (terminators : List String) : P (atBlockEnd terminators)

/-- A closed property that the end of a text has too. -/
structure Hereditary (P : ∀ {α : Type}, Parser α → Prop) : Prop extends Closed P where
  endOfText : P endOfText

namespace Closed

variable {P : ∀ {α : Type}, Parser α → Prop} (hP : Closed P)

include hP

section Sequences

variable {α β : Type} {p : Parser α}

/-- A parser after another one has the property. -/
theorem bind {f : α → Parser β} (h : P p) (hf : ∀ value, P (f value)) : P (p >>= f) :=
  hP.commit h hf hP.fail

/-- A value that is returned is made of what was read. -/
theorem map (h : P p) (f : α → β) : P (p >>= fun value => pure (f value)) :=
  hP.bind h fun value => hP.succeed (f value)

/-- A parser after blanks has the property. -/
theorem blanks {f : Unit → Parser α} (h : P (f ())) : P (Parser.skipBlanks >>= f) :=
  hP.bind hP.skipBlanks fun _ => h

end Sequences

/-- The parser of one character has the property. -/
theorem char (char : Char) : P (Parser.char char) :=
  hP.symbol _

/-- The parser of some operators has the property. -/
theorem operatorOf (operators : List Operator) : P (operatorOf operators) := by
  induction operators with
  | nil => exact hP.fail
  | cons first others ih =>
      refine hP.commit ?_ (fun _ => hP.succeed first) ih
      cases first with
      | and | or => exact hP.word _
      | _ => exact hP.symbol _

/-! ## Expressions -/

section Expressions

variable {p : Parser Expr} (h : P p)

include h

/-- The operands of a level have the property. -/
theorem operands (operators : List Operator) (left : Expr) : P (operands operators p left) := by
  refine hP.fix (fun more hmore left => ?_) left
  refine hP.afterBlanks (hP.operatorOf operators) (fun operator => ?_) (hP.succeed left)
  exact hP.blanks (hP.bind h fun right => hmore _)

/-- A level has the property if its operand has. -/
theorem binaryLevel (operators : List Operator) : P (binaryLevel operators p) := by
  rw [binaryLevel_eq_operands]
  exact hP.bind h fun first => hP.operands h operators first

/-- All levels have the property if the innermost operand has. -/
theorem levels (levels : List (List Operator)) : P (levels.foldr Parser.binaryLevel p) := by
  induction levels with
  | nil => exact h
  | cons operators levels ih => exact hP.binaryLevel ih operators

/-- Negations have the property. -/
theorem negation : P (negation p) := by
  refine hP.fix (fun again hagain _ => ?_) ()
  exact hP.commit (hP.word "not") (fun _ => hP.blanks (hP.map (hagain ()) _)) h

/-- The expressions after the first one have the property. -/
theorem moreElements : P (moreElements p) := by
  refine hP.fix (fun more hmore _ => ?_) ()
  refine hP.blanks (hP.commit (hP.char ',') (fun _ => ?_) (hP.succeed []))
  exact hP.blanks (hP.bind h fun _ => hP.map (hmore ()) _)

/-- Lists of expressions have the property. -/
theorem elements (close : Char) : P (elements p close) := by
  refine hP.blanks (hP.commit (hP.char close) (fun _ => hP.succeed []) ?_)
  exact hP.bind h fun _ => hP.bind (hP.moreElements h) fun _ => hP.map (hP.char close) _

/-- Chains have the property. -/
theorem chain (base : Expr) : P (chain p base) := by
  refine hP.fix (fun more hmore base => ?_) base
  refine hP.commit (hP.char '.') (fun _ => ?_) (hP.succeed base)
  refine hP.bind hP.identifier fun name => hP.commit (hP.char '(') (fun _ => ?_) (hmore _)
  exact hP.bind (hP.elements h ')') fun args => hmore _

/-- What a name starts has the property. -/
theorem reference (name : String) : P (reference p name) :=
  hP.commit (hP.char '(') (fun _ => hP.map (hP.elements h ')') _) (hP.chain h _)

/-- Parentheses have the property. -/
theorem parenthesized : P (parenthesized p) :=
  hP.blanks (hP.bind h fun _ => hP.blanks (hP.map (hP.char ')') _))

/-- Terms have the property if the expressions in them have. -/
theorem term : P (term p) := by
  refine hP.commit hP.number (fun _ => hP.succeed _) ?_
  refine hP.commit (hP.word "true") (fun _ => hP.succeed _) ?_
  refine hP.commit (hP.word "false") (fun _ => hP.succeed _) ?_
  refine hP.commit hP.identifier (fun name => hP.reference h name) ?_
  refine hP.commit (hP.char '[') (fun _ => hP.map (hP.elements h ']') _) ?_
  refine hP.commit hP.string (fun _ => hP.succeed _) ?_
  exact hP.commit (hP.char '(') (fun _ => hP.parenthesized h) hP.fail

end Expressions

/-- Expressions have the property. -/
theorem expression : P expression :=
  hP.fix (fun _ hf _ => hP.levels (hP.negation (hP.term (hf ()))) operatorLevels) ()

/-! ## Statements -/

section Statements

variable {p : Parser Statement} (h : P p)

include h

/-- Blocks have the property if the statements in them have. -/
theorem block (terminators : List String) : P (block p terminators) := by
  refine hP.fix (fun more hmore _ => ?_) ()
  refine hP.blanks (hP.bind (hP.atBlockEnd terminators) fun atEnd => ?_)
  cases atEnd with
  | true => exact hP.succeed []
  | false => exact hP.bind h fun _ => hP.map (hmore ()) _

/-- A branch is its test and what follows it. -/
theorem branchBody_split {again : Unit → Parser Statement} (hagain : ∀ state, P (again state)) :
    ∃ afterTest : Expr → Parser Statement,
      branchBody p again () = (Parser.skipBlanks >>= fun _ => Parser.expression >>= afterTest) ∧
        ∀ test, P (afterTest test) := by
  refine ⟨_, rfl, fun test => ?_⟩
  refine hP.blanks (hP.bind (hP.word "then") fun _ => ?_)
  refine hP.bind (hP.block h _) fun consequent => ?_
  refine hP.commit (hP.word "else") (fun _ => hP.blanks ?_) (hP.map (hP.word "end") _)
  refine hP.commit (hP.word "if") (fun _ => hP.map (hagain ()) _) ?_
  exact hP.bind (hP.block h _) fun _ => hP.map (hP.word "end") _

/-- Branches have the property. -/
theorem branch : P (branch p) := by
  show P (Parser.fix (branchBody p) ())
  refine hP.fix (fun again hagain _ => ?_) ()
  obtain ⟨afterTest, hsplit, hafter⟩ := hP.branchBody_split h hagain
  rw [hsplit]
  exact hP.blanks (hP.bind hP.expression hafter)

/-- Loops have the property. -/
theorem forEach : P (forEach p) := by
  refine hP.blanks (hP.bind (hP.word "each") fun _ => ?_)
  refine hP.blanks (hP.bind hP.identifier fun _ => ?_)
  refine hP.blanks (hP.bind (hP.word "in") fun _ => ?_)
  refine hP.blanks (hP.bind (hP.term hP.expression) fun _ => ?_)
  refine hP.blanks (hP.bind (hP.word "do") fun _ => ?_)
  exact hP.bind (hP.block h _) fun _ => hP.map (hP.word "end") _

omit h in
/-- Statements that a name starts have the property. -/
theorem simpleStatement (name : String) : P (simpleStatement name) := by
  refine hP.afterBlanks hP.assignSign (fun _ => hP.blanks (hP.map hP.expression _)) ?_
  refine hP.commit (hP.char '(') (fun _ => hP.map (hP.elements hP.expression ')') _) ?_
  refine hP.bind (hP.chain hP.expression _) fun found => ?_
  cases found with
  | method base name args => exact hP.succeed _
  | _ => exact hP.fail

/-- Statements have the property if the statements in them have. -/
theorem statementWith : P (statementWith p) := by
  refine hP.commit (hP.word "if") (fun _ => hP.branch h) ?_
  refine hP.commit (hP.word "for") (fun _ => hP.forEach h) ?_
  exact hP.bind hP.identifier hP.simpleStatement

end Statements

/-- Statements have the property. -/
theorem statement : P statement :=
  hP.fix (fun _ hf _ => hP.statementWith (hf ())) ()

end Closed

/-- The parser of programs has a hereditary property. -/
theorem Hereditary.program {P : ∀ {α : Type}, Parser α → Prop} (hP : Hereditary P) : P program :=
  hP.bind (hP.block hP.statement []) fun _ => hP.bind hP.endOfText fun _ => hP.succeed _

end HostScript.Parser
