import HostScript.Proofs.Source.Phrases

/-!
# Programs that have a text

A program can hold names, strings, numbers and trees that no text stands for. `Program.WellFormed`
rules them out, and every program that a text derives is well formed (`Derives.wellFormed`).
-/

namespace HostScript

open Grammar

/-- Being a name is decided character by character. -/
instance (name : String) : Decidable (IsName name) :=
  decidable_of_iff
    (name.toList.head?.any isNameStart = true ∧
      (∀ char ∈ name.toList.tail, isNamePart char = true) ∧ ¬ isReserved name = true) <| by
    unfold IsName
    cases name.toList with
    | nil => simp
    | cons first others => simp [and_assoc]

/-- Whether an expression is a variable with reads of properties and calls of methods after it. -/
def Expr.isChain : Expr → Bool
  | .var _ => true
  | .property base _ => base.isChain
  | .method base _ _ => base.isChain
  | _ => false

mutual

/-- Names are names, strings hold no double quote, numbers are finite, and what a property or a
method belongs to is a chain. -/
def Expr.WellFormed : Expr → Prop
  | .number value => value.isFinite = true
  | .string value => '"' ∉ value.toList
  | .boolean _ => True
  | .array elements => Expr.ListWellFormed elements
  | .var name => IsName name
  | .property base name => base.isChain = true ∧ base.WellFormed ∧ IsName name
  | .method base name args =>
    base.isChain = true ∧ base.WellFormed ∧ IsName name ∧ Expr.ListWellFormed args
  | .call name args => IsName name ∧ Expr.ListWellFormed args
  | .binary _ left right => left.WellFormed ∧ right.WellFormed
  | .not operand => operand.WellFormed

/-- Every expression of a list is well formed. -/
def Expr.ListWellFormed : List Expr → Prop
  | [] => True
  | expr :: exprs => expr.WellFormed ∧ Expr.ListWellFormed exprs

end

mutual

/-- Whether an expression is well formed is decided part by part. -/
instance Expr.decidableWellFormed : (expr : Expr) → Decidable expr.WellFormed
  | .number value => inferInstanceAs (Decidable (value.isFinite = true))
  | .string value => inferInstanceAs (Decidable ('"' ∉ value.toList))
  | .boolean _ => inferInstanceAs (Decidable True)
  | .array elements => Expr.decidableListWellFormed elements
  | .var name => inferInstanceAs (Decidable (IsName name))
  | .property base name =>
    have := Expr.decidableWellFormed base
    inferInstanceAs (Decidable (base.isChain = true ∧ base.WellFormed ∧ IsName name))
  | .method base name args =>
    have := Expr.decidableWellFormed base
    have := Expr.decidableListWellFormed args
    inferInstanceAs (Decidable (base.isChain = true ∧ base.WellFormed ∧ IsName name ∧
      Expr.ListWellFormed args))
  | .call name args =>
    have := Expr.decidableListWellFormed args
    inferInstanceAs (Decidable (IsName name ∧ Expr.ListWellFormed args))
  | .binary _ left right =>
    have := Expr.decidableWellFormed left
    have := Expr.decidableWellFormed right
    inferInstanceAs (Decidable (left.WellFormed ∧ right.WellFormed))
  | .not operand => Expr.decidableWellFormed operand

/-- Whether the expressions of a list are well formed is decided one by one. -/
instance Expr.decidableListWellFormed : (exprs : List Expr) → Decidable (Expr.ListWellFormed exprs)
  | [] => inferInstanceAs (Decidable True)
  | expr :: exprs =>
    have := Expr.decidableWellFormed expr
    have := Expr.decidableListWellFormed exprs
    inferInstanceAs (Decidable (expr.WellFormed ∧ Expr.ListWellFormed exprs))

end

mutual

/-- The parts of a statement are well formed, and the other case of a branch is exactly one branch
if it starts with one. -/
def Statement.WellFormed : Statement → Prop
  | .assign name value => IsName name ∧ value.WellFormed
  | .call name args => IsName name ∧ Expr.ListWellFormed args
  | .method base name args =>
    base.isChain = true ∧ base.WellFormed ∧ IsName name ∧ Expr.ListWellFormed args
  | .branch test consequent alternative =>
    test.WellFormed ∧ Statement.ListWellFormed consequent ∧
      Statement.ListWellFormed alternative ∧
      (startsWithBranch alternative = true → alternative.length = 1)
  | .forEach binding iterable body =>
    IsName binding ∧ iterable.WellFormed ∧ Statement.ListWellFormed body

/-- Every statement of a block is well formed. -/
def Statement.ListWellFormed : List Statement → Prop
  | [] => True
  | statement :: statements => statement.WellFormed ∧ Statement.ListWellFormed statements

end

mutual

/-- Whether a statement is well formed is decided part by part. -/
instance Statement.decidableWellFormed : (statement : Statement) → Decidable statement.WellFormed
  | .assign name value => inferInstanceAs (Decidable (IsName name ∧ value.WellFormed))
  | .call name args => inferInstanceAs (Decidable (IsName name ∧ Expr.ListWellFormed args))
  | .method base name args =>
    inferInstanceAs (Decidable (base.isChain = true ∧ base.WellFormed ∧ IsName name ∧
      Expr.ListWellFormed args))
  | .branch test consequent alternative =>
    have := Statement.decidableListWellFormed consequent
    have := Statement.decidableListWellFormed alternative
    inferInstanceAs (Decidable (test.WellFormed ∧ Statement.ListWellFormed consequent ∧
      Statement.ListWellFormed alternative ∧
      (startsWithBranch alternative = true → alternative.length = 1)))
  | .forEach binding iterable body =>
    have := Statement.decidableListWellFormed body
    inferInstanceAs (Decidable (IsName binding ∧ iterable.WellFormed ∧
      Statement.ListWellFormed body))

/-- Whether the statements of a block are well formed is decided one by one. -/
instance Statement.decidableListWellFormed :
    (statements : List Statement) → Decidable (Statement.ListWellFormed statements)
  | [] => inferInstanceAs (Decidable True)
  | statement :: statements =>
    have := Statement.decidableWellFormed statement
    have := Statement.decidableListWellFormed statements
    inferInstanceAs (Decidable (statement.WellFormed ∧ Statement.ListWellFormed statements))

end

/-- Every statement of a program is well formed. -/
def Program.WellFormed (program : Program) : Prop :=
  Statement.ListWellFormed program.statements

instance (program : Program) : Decidable program.WellFormed :=
  Statement.decidableListWellFormed program.statements

namespace Grammar

/-! ## Phrases are well formed -/

mutual

/-- Operations are well formed, by recursion over the derivation. -/
theorem Operation.wellFormed : ∀ {level : Nat} {text rest : List Char} {expr : Expr},
    Operation level text rest expr → expr.WellFormed
  | _, _, _, _, .tighter _ _ _ _ _ hnext => hnext.wellFormed
  | _, _, _, _, .binary _ _ _ _ _ _ _ _ _ _ _ hleft _ _ _ hright =>
      ⟨hleft.wellFormed, hright.wellFormed⟩
  | _, _, _, _, .not _ _ _ _ _ _ _ hoperand => hoperand.wellFormed
  | _, _, _, _, .term _ _ _ hterm => hterm.wellFormed

/-- Terms are well formed. -/
theorem Term.wellFormed : ∀ {text rest : List Char} {expr : Expr}, Term text rest expr →
    expr.WellFormed
  | _, _, _, .number _ _ _ hliteral => by
      obtain ⟨_, _, _, _, _, -, -, -, hfinite, -⟩ := hliteral
      exact hfinite
  | _, _, _, .trueWord _ _ _ => trivial
  | _, _, _, .falseWord _ _ _ => trivial
  | _, _, _, .call _ _ _ _ _ hname hargs => ⟨hname.1, hargs.wellFormed⟩
  | _, _, _, .chain _ _ _ hchain => hchain.wellFormed.2
  | _, _, _, .array _ _ _ hinner => hinner.wellFormed
  | _, _, _, .string _ _ hquote => hquote
  | _, _, _, .parenthesized _ _ _ _ _ _ hexpr _ => hexpr.wellFormed

/-- Chains are well formed and start with a name. -/
theorem Chain.wellFormed : ∀ {text rest : List Char} {expr : Expr}, Chain text rest expr →
    expr.isChain = true ∧ expr.WellFormed
  | _, _, _, .var _ _ _ hname => ⟨rfl, hname.1⟩
  | _, _, _, .property _ _ _ _ _ hbase hname =>
      ⟨hbase.wellFormed.1, hbase.wellFormed.1, hbase.wellFormed.2, hname.1⟩
  | _, _, _, .method _ _ _ _ _ _ _ hbase hname hargs =>
      ⟨hbase.wellFormed.1, hbase.wellFormed.1, hbase.wellFormed.2, hname.1, hargs.wellFormed⟩

/-- The elements of a list are well formed. -/
theorem Elements.wellFormed : ∀ {close : Char} {text rest : List Char} {exprs : List Expr},
    Elements close text rest exprs → Expr.ListWellFormed exprs
  | _, _, _, _, .none _ _ _ _ => trivial
  | _, _, _, _, .some _ _ _ _ _ _ _ _ hfirst hothers => ⟨hfirst.wellFormed, hothers.wellFormed⟩

/-- The elements after the first one are well formed. -/
theorem MoreElements.wellFormed : ∀ {close : Char} {text rest : List Char} {exprs : List Expr},
    MoreElements close text rest exprs → Expr.ListWellFormed exprs
  | _, _, _, _, .done _ _ _ _ => trivial
  | _, _, _, _, .next _ _ _ _ _ _ _ _ _ _ helement hothers =>
      ⟨helement.wellFormed, hothers.wellFormed⟩

end

mutual

/-- Statements are well formed, by recursion over the derivation. -/
theorem Sentence.wellFormed : ∀ {text rest : List Char} {statement : Statement},
    Sentence text rest statement → statement.WellFormed
  | _, _, _, .assign _ _ _ _ _ _ _ hname _ _ hvalue => ⟨hname.1, hvalue.wellFormed⟩
  | _, _, _, .call _ _ _ _ _ hname hargs => ⟨hname.1, hargs.wellFormed⟩
  | _, _, _, .method _ _ _ _ _ hchain => hchain.wellFormed.2
  | _, _, _, .branch _ _ _ hbranch => hbranch.wellFormed
  | _, _, _, .forEach _ _ _ _ _ _ _ _ _ _ _ _ _ _ _ _ _ _ _ _ _ hname _ _ _ hterm _ _ hbody _ =>
      ⟨hname.1, hterm.wellFormed, hbody.wellFormed⟩

/-- Branches are well formed. -/
theorem Branch.wellFormed : ∀ {text rest : List Char} {statement : Statement},
    Branch text rest statement → statement.WellFormed
  | _, _, _, .intro _ _ _ _ _ _ _ _ _ _ _ _ _ htest _ _ hconsequent hother =>
      ⟨htest.wellFormed, hconsequent.wellFormed, hother.wellFormed⟩

/-- An alternative is well formed, and a branch in its place stands alone. -/
theorem Otherwise.wellFormed : ∀ {text rest : List Char} {statements : List Statement},
    Otherwise text rest statements → Statement.ListWellFormed statements ∧
      (startsWithBranch statements = true → statements.length = 1)
  | _, _, _, .none _ _ _ => ⟨trivial, fun h => by cases h⟩
  | _, _, _, .nested _ _ _ _ _ _ _ hbranch => ⟨⟨hbranch.wellFormed, trivial⟩, fun _ => rfl⟩
  | _, _, _, .block _ _ _ _ _ _ hblock hbranch _ =>
      ⟨hblock.wellFormed, fun h => by rw [hbranch] at h; cases h⟩

/-- Blocks are well formed. -/
theorem Block.wellFormed : ∀ {text rest : List Char} {statements : List Statement},
    Block text rest statements → Statement.ListWellFormed statements
  | _, _, _, .nil _ _ _ => trivial
  | _, _, _, .cons _ _ _ _ _ _ _ hfirst hothers => ⟨hfirst.wellFormed, hothers.wellFormed⟩

end

/-- A program that a text derives is well formed. -/
theorem Derives.wellFormed {text : List Char} {program : Program} (h : Derives text program) :
    program.WellFormed :=
  Block.wellFormed h

end Grammar

end HostScript
