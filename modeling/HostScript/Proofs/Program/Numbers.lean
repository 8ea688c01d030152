import HostScript.Program.Basic
import HostScript.Proofs.Binary64.Rounding

/-!
# The numbers of a program

`numbers` lists the literals of a program in the order of its text. `replaceNumbers` puts an
expression in the place of each of them, and `mapNumbers` another number; nothing else changes. A
program is unchanged exactly if each of its numbers is (`Program.mapNumbers_eq_self_iff`).
-/

namespace HostScript

mutual

/-- The numbers of an expression. -/
def Expr.numbers : Expr → List Binary64
  | .number value => [value]
  | .string _ => []
  | .boolean _ => []
  | .array elements => Expr.listNumbers elements
  | .var _ => []
  | .property base _ => base.numbers
  | .method base _ args => base.numbers ++ Expr.listNumbers args
  | .call _ args => Expr.listNumbers args
  | .binary _ left right => left.numbers ++ right.numbers
  | .not operand => operand.numbers

/-- The numbers of some expressions. -/
def Expr.listNumbers : List Expr → List Binary64
  | [] => []
  | expr :: exprs => expr.numbers ++ Expr.listNumbers exprs

end

mutual

/-- The numbers of a statement. -/
def Statement.numbers : Statement → List Binary64
  | .assign _ value => value.numbers
  | .call _ args => Expr.listNumbers args
  | .method base _ args => base.numbers ++ Expr.listNumbers args
  | .branch test consequent alternative =>
    test.numbers ++ Statement.listNumbers consequent ++ Statement.listNumbers alternative
  | .forEach _ iterable body => iterable.numbers ++ Statement.listNumbers body

/-- The numbers of some statements. -/
def Statement.listNumbers : List Statement → List Binary64
  | [] => []
  | statement :: statements => statement.numbers ++ Statement.listNumbers statements

end

/-- The numbers of a program. -/
def Program.numbers (program : Program) : List Binary64 :=
  Statement.listNumbers program.statements

mutual

/-- The expression with each of its numbers replaced. -/
def Expr.replaceNumbers (f : Binary64 → Expr) : Expr → Expr
  | .number value => f value
  | .string value => .string value
  | .boolean value => .boolean value
  | .array elements => .array (Expr.listReplaceNumbers f elements)
  | .var name => .var name
  | .property base name => .property (base.replaceNumbers f) name
  | .method base name args =>
    .method (base.replaceNumbers f) name (Expr.listReplaceNumbers f args)
  | .call name args => .call name (Expr.listReplaceNumbers f args)
  | .binary operator left right =>
    .binary operator (left.replaceNumbers f) (right.replaceNumbers f)
  | .not operand => .not (operand.replaceNumbers f)

/-- The expressions with each of their numbers replaced. -/
def Expr.listReplaceNumbers (f : Binary64 → Expr) : List Expr → List Expr
  | [] => []
  | expr :: exprs => expr.replaceNumbers f :: Expr.listReplaceNumbers f exprs

end

mutual

/-- The statement with each of its numbers replaced. -/
def Statement.replaceNumbers (f : Binary64 → Expr) : Statement → Statement
  | .assign name value => .assign name (value.replaceNumbers f)
  | .call name args => .call name (Expr.listReplaceNumbers f args)
  | .method base name args =>
    .method (base.replaceNumbers f) name (Expr.listReplaceNumbers f args)
  | .branch test consequent alternative =>
    .branch (test.replaceNumbers f) (Statement.listReplaceNumbers f consequent)
      (Statement.listReplaceNumbers f alternative)
  | .forEach binding iterable body =>
    .forEach binding (iterable.replaceNumbers f) (Statement.listReplaceNumbers f body)

/-- The statements with each of their numbers replaced. -/
def Statement.listReplaceNumbers (f : Binary64 → Expr) : List Statement → List Statement
  | [] => []
  | statement :: statements =>
    statement.replaceNumbers f :: Statement.listReplaceNumbers f statements

end

/-- The program with each of its numbers replaced. -/
def Program.replaceNumbers (f : Binary64 → Expr) (program : Program) : Program :=
  ⟨Statement.listReplaceNumbers f program.statements⟩

/-- The program with each of its numbers changed. -/
def Program.mapNumbers (f : Binary64 → Binary64) (program : Program) : Program :=
  program.replaceNumbers fun number => .number (f number)

/-! ## Lists -/

/-- Numbers are replaced in one expression of a list after the other. -/
theorem Expr.listReplaceNumbers_eq_map (f : Binary64 → Expr) (exprs : List Expr) :
    Expr.listReplaceNumbers f exprs = exprs.map (Expr.replaceNumbers f) := by
  induction exprs with
  | nil => rfl
  | cons expr exprs ih => rw [Expr.listReplaceNumbers, ih, List.map_cons]

/-- Numbers are replaced in one statement of a block after the other. -/
theorem Statement.listReplaceNumbers_eq_map (f : Binary64 → Expr) (statements : List Statement) :
    Statement.listReplaceNumbers f statements = statements.map (Statement.replaceNumbers f) := by
  induction statements with
  | nil => rfl
  | cons statement statements ih => rw [Statement.listReplaceNumbers, ih, List.map_cons]

/-- The numbers of a list are those of its expressions, in order. -/
theorem Expr.listNumbers_eq_flatMap (exprs : List Expr) :
    Expr.listNumbers exprs = exprs.flatMap Expr.numbers := by
  induction exprs with
  | nil => rfl
  | cons expr exprs ih => rw [Expr.listNumbers, ih, List.flatMap_cons]

/-- The numbers of a block are those of its statements, in order. -/
theorem Statement.listNumbers_eq_flatMap (statements : List Statement) :
    Statement.listNumbers statements = statements.flatMap Statement.numbers := by
  induction statements with
  | nil => rfl
  | cons statement statements ih => rw [Statement.listNumbers, ih, List.flatMap_cons]

/-! ## Programs with the same numbers in their places -/

section Same

variable {f g : Binary64 → Expr}

mutual

/-- Two functions give the same expression exactly if they agree on its numbers. -/
theorem Expr.replaceNumbers_eq_iff : ∀ {expr : Expr},
    expr.replaceNumbers f = expr.replaceNumbers g ↔ ∀ number ∈ expr.numbers, f number = g number
  | .number value => by simp [Expr.replaceNumbers, Expr.numbers]
  | .string value => by simp [Expr.replaceNumbers, Expr.numbers]
  | .boolean value => by simp [Expr.replaceNumbers, Expr.numbers]
  | .array elements => by
      simp [Expr.replaceNumbers, Expr.numbers, Expr.listReplaceNumbers_eq_iff]
  | .var name => by simp [Expr.replaceNumbers, Expr.numbers]
  | .property base name => by
      simp [Expr.replaceNumbers, Expr.numbers, base.replaceNumbers_eq_iff]
  | .method base name args => by
      simp [Expr.replaceNumbers, Expr.numbers, Expr.replaceNumbers_eq_iff,
        Expr.listReplaceNumbers_eq_iff, or_imp, forall_and]
  | .call name args => by
      simp [Expr.replaceNumbers, Expr.numbers, Expr.listReplaceNumbers_eq_iff]
  | .binary operator left right => by
      simp [Expr.replaceNumbers, Expr.numbers, left.replaceNumbers_eq_iff,
        right.replaceNumbers_eq_iff, or_imp, forall_and]
  | .not operand => by simp [Expr.replaceNumbers, Expr.numbers, operand.replaceNumbers_eq_iff]

/-- Two functions give the same expressions exactly if they agree on their numbers. -/
theorem Expr.listReplaceNumbers_eq_iff : ∀ {exprs : List Expr},
    Expr.listReplaceNumbers f exprs = Expr.listReplaceNumbers g exprs ↔
      ∀ number ∈ Expr.listNumbers exprs, f number = g number
  | [] => by simp [Expr.listReplaceNumbers, Expr.listNumbers]
  | expr :: exprs => by
      simp [Expr.listReplaceNumbers, Expr.listNumbers, expr.replaceNumbers_eq_iff,
        Expr.listReplaceNumbers_eq_iff, or_imp, forall_and]

end

mutual

/-- Two functions give the same statement exactly if they agree on its numbers. -/
theorem Statement.replaceNumbers_eq_iff : ∀ {statement : Statement},
    statement.replaceNumbers f = statement.replaceNumbers g ↔
      ∀ number ∈ statement.numbers, f number = g number
  | .assign name value => by
      simp [Statement.replaceNumbers, Statement.numbers, value.replaceNumbers_eq_iff]
  | .call name args => by
      simp [Statement.replaceNumbers, Statement.numbers, Expr.listReplaceNumbers_eq_iff]
  | .method base name args => by
      simp [Statement.replaceNumbers, Statement.numbers, base.replaceNumbers_eq_iff,
        Expr.listReplaceNumbers_eq_iff, or_imp, forall_and]
  | .branch test consequent alternative => by
      simp [Statement.replaceNumbers, Statement.numbers, test.replaceNumbers_eq_iff,
        Statement.listReplaceNumbers_eq_iff, or_imp, forall_and]
  | .forEach binding iterable body => by
      simp [Statement.replaceNumbers, Statement.numbers, iterable.replaceNumbers_eq_iff,
        Statement.listReplaceNumbers_eq_iff, or_imp, forall_and]

/-- Two functions give the same statements exactly if they agree on their numbers. -/
theorem Statement.listReplaceNumbers_eq_iff : ∀ {statements : List Statement},
    Statement.listReplaceNumbers f statements = Statement.listReplaceNumbers g statements ↔
      ∀ number ∈ Statement.listNumbers statements, f number = g number
  | [] => by simp [Statement.listReplaceNumbers, Statement.listNumbers]
  | statement :: statements => by
      simp [Statement.listReplaceNumbers, Statement.listNumbers, statement.replaceNumbers_eq_iff,
        Statement.listReplaceNumbers_eq_iff, or_imp, forall_and]

end

mutual

/-- An expression has its own numbers in their places. -/
theorem Expr.replaceNumbers_number : ∀ expr : Expr, expr.replaceNumbers .number = expr
  | .number _ => rfl
  | .string _ => rfl
  | .boolean _ => rfl
  | .array elements => by rw [Expr.replaceNumbers, Expr.listReplaceNumbers_number elements]
  | .var _ => rfl
  | .property base _ => by rw [Expr.replaceNumbers, base.replaceNumbers_number]
  | .method base _ args => by
      rw [Expr.replaceNumbers, base.replaceNumbers_number, Expr.listReplaceNumbers_number args]
  | .call _ args => by rw [Expr.replaceNumbers, Expr.listReplaceNumbers_number args]
  | .binary _ left right => by
      rw [Expr.replaceNumbers, left.replaceNumbers_number, right.replaceNumbers_number]
  | .not operand => by rw [Expr.replaceNumbers, operand.replaceNumbers_number]

/-- Expressions have their own numbers in their places. -/
theorem Expr.listReplaceNumbers_number : ∀ exprs : List Expr,
    Expr.listReplaceNumbers .number exprs = exprs
  | [] => rfl
  | expr :: exprs => by
      rw [Expr.listReplaceNumbers, expr.replaceNumbers_number, Expr.listReplaceNumbers_number exprs]

end

mutual

/-- A statement has its own numbers in their places. -/
theorem Statement.replaceNumbers_number : ∀ statement : Statement,
    statement.replaceNumbers .number = statement
  | .assign _ value => by rw [Statement.replaceNumbers, value.replaceNumbers_number]
  | .call _ args => by rw [Statement.replaceNumbers, Expr.listReplaceNumbers_number args]
  | .method base _ args => by
      rw [Statement.replaceNumbers, base.replaceNumbers_number, Expr.listReplaceNumbers_number args]
  | .branch test consequent alternative => by
      rw [Statement.replaceNumbers, test.replaceNumbers_number,
        Statement.listReplaceNumbers_number consequent,
        Statement.listReplaceNumbers_number alternative]
  | .forEach _ iterable body => by
      rw [Statement.replaceNumbers, iterable.replaceNumbers_number,
        Statement.listReplaceNumbers_number body]

/-- Statements have their own numbers in their places. -/
theorem Statement.listReplaceNumbers_number : ∀ statements : List Statement,
    Statement.listReplaceNumbers .number statements = statements
  | [] => rfl
  | statement :: statements => by
      rw [Statement.listReplaceNumbers, statement.replaceNumbers_number,
        Statement.listReplaceNumbers_number statements]

end

variable {program : Program}

/-- Two functions give the same program exactly if they agree on its numbers. -/
theorem Program.replaceNumbers_eq_iff : program.replaceNumbers f = program.replaceNumbers g ↔
    ∀ number ∈ program.numbers, f number = g number := by
  rw [Program.replaceNumbers, Program.replaceNumbers, Program.numbers,
    ← Statement.listReplaceNumbers_eq_iff, Program.mk.injEq]

/-- A program is unchanged exactly if each of its numbers is replaced by itself. -/
theorem Program.replaceNumbers_eq_self_iff : program.replaceNumbers f = program ↔
    ∀ number ∈ program.numbers, f number = .number number := by
  have hself : program.replaceNumbers .number = program := by
    rw [Program.replaceNumbers, Statement.listReplaceNumbers_number]
  rw [← Program.replaceNumbers_eq_iff, hself]

/-- Numbers that change in the same way make the same program. -/
theorem Program.mapNumbers_eq_iff {f g : Binary64 → Binary64} :
    program.mapNumbers f = program.mapNumbers g ↔
      ∀ number ∈ program.numbers, f number = g number := by
  rw [Program.mapNumbers, Program.mapNumbers, Program.replaceNumbers_eq_iff]
  simp only [Expr.number.injEq]

/-- A program is unchanged exactly if each of its numbers is. -/
theorem Program.mapNumbers_eq_self_iff {f : Binary64 → Binary64} :
    program.mapNumbers f = program ↔ ∀ number ∈ program.numbers, f number = number := by
  rw [Program.mapNumbers, Program.replaceNumbers_eq_self_iff]
  simp only [Expr.number.injEq]

end Same

/-! ## Equal programs -/

/-- A finite number equals itself with the sign of zero dropped. -/
theorem Binary64.unsignZero_equals {number : Binary64} (h : number.isFinite = true) :
    number.unsignZero.equals number = true := by
  cases number with
  | nan => cases h
  | infinite => cases h
  | finite negative rank =>
      have hposition : (finite negative rank).unsignZero.position? =
          (finite negative rank).position? := by
        by_cases hzero : rank.val = 0
        · obtain rfl : rank = ⟨0, by decide⟩ := Fin.ext hzero
          cases negative with
          | false => rfl
          | true => rfl
        · rw [unsignZero_finite hzero]
      rw [equals, compare?, hposition]
      simp [position?]

section Equal

variable {f : Binary64 → Expr}

mutual

/-- An expression stays equal if each number is replaced by an equal one. -/
theorem Expr.replaceNumbers_equals : ∀ {expr : Expr},
    (∀ number ∈ expr.numbers, (f number).equals (.number number) = true) →
      (expr.replaceNumbers f).equals expr = true
  | .number value, h => h value List.mem_cons_self
  | .string value, _ => by simp [Expr.replaceNumbers, Expr.equals]
  | .boolean value, _ => by simp [Expr.replaceNumbers, Expr.equals]
  | .array elements, h => Expr.listReplaceNumbers_equals h
  | .var name, _ => by simp [Expr.replaceNumbers, Expr.equals]
  | .property base name, h => by
      simp [Expr.replaceNumbers, Expr.equals, base.replaceNumbers_equals h]
  | .method base name args, h => by
      obtain ⟨hbase, hargs⟩ := List.forall_mem_append.1 h
      simp [Expr.replaceNumbers, Expr.equals, base.replaceNumbers_equals hbase,
        Expr.listReplaceNumbers_equals hargs]
  | .call name args, h => by
      simp [Expr.replaceNumbers, Expr.equals, Expr.listReplaceNumbers_equals h]
  | .binary operator left right, h => by
      obtain ⟨hleft, hright⟩ := List.forall_mem_append.1 h
      simp [Expr.replaceNumbers, Expr.equals, left.replaceNumbers_equals hleft,
        right.replaceNumbers_equals hright]
  | .not operand, h => operand.replaceNumbers_equals h

/-- A list of expressions stays equal if each number is replaced by an equal one. -/
theorem Expr.listReplaceNumbers_equals : ∀ {exprs : List Expr},
    (∀ number ∈ Expr.listNumbers exprs, (f number).equals (.number number) = true) →
      Expr.listEquals (Expr.listReplaceNumbers f exprs) exprs = true
  | [], _ => rfl
  | expr :: exprs, h => by
      obtain ⟨hexpr, hexprs⟩ := List.forall_mem_append.1 h
      simp [Expr.listReplaceNumbers, Expr.listEquals, expr.replaceNumbers_equals hexpr,
        Expr.listReplaceNumbers_equals hexprs]

end

mutual

/-- A statement stays equal if each number is replaced by an equal one. -/
theorem Statement.replaceNumbers_equals : ∀ {statement : Statement},
    (∀ number ∈ statement.numbers, (f number).equals (.number number) = true) →
      (statement.replaceNumbers f).equals statement = true
  | .assign name value, h => by
      simp [Statement.replaceNumbers, Statement.equals, value.replaceNumbers_equals h]
  | .call name args, h => by
      simp [Statement.replaceNumbers, Statement.equals, Expr.listReplaceNumbers_equals h]
  | .method base name args, h => by
      obtain ⟨hbase, hargs⟩ := List.forall_mem_append.1 h
      simp [Statement.replaceNumbers, Statement.equals, base.replaceNumbers_equals hbase,
        Expr.listReplaceNumbers_equals hargs]
  | .branch test consequent alternative, h => by
      obtain ⟨hfirst, halternative⟩ := List.forall_mem_append.1 h
      obtain ⟨htest, hconsequent⟩ := List.forall_mem_append.1 hfirst
      simp [Statement.replaceNumbers, Statement.equals, test.replaceNumbers_equals htest,
        Statement.listReplaceNumbers_equals hconsequent,
        Statement.listReplaceNumbers_equals halternative]
  | .forEach binding iterable body, h => by
      obtain ⟨hiterable, hbody⟩ := List.forall_mem_append.1 h
      simp [Statement.replaceNumbers, Statement.equals, iterable.replaceNumbers_equals hiterable,
        Statement.listReplaceNumbers_equals hbody]

/-- A block stays equal if each number is replaced by an equal one. -/
theorem Statement.listReplaceNumbers_equals : ∀ {statements : List Statement},
    (∀ number ∈ Statement.listNumbers statements, (f number).equals (.number number) = true) →
      Statement.listEquals (Statement.listReplaceNumbers f statements) statements = true
  | [], _ => rfl
  | statement :: statements, h => by
      obtain ⟨hstatement, hstatements⟩ := List.forall_mem_append.1 h
      simp [Statement.listReplaceNumbers, Statement.listEquals,
        statement.replaceNumbers_equals hstatement, Statement.listReplaceNumbers_equals hstatements]

end

/-- A program equals one whose numbers are changed to equal ones. -/
theorem Program.mapNumbers_equals {f : Binary64 → Binary64} {program : Program}
    (h : ∀ number ∈ program.numbers, (f number).equals number = true) :
    (program.mapNumbers f).equals program = true :=
  Statement.listReplaceNumbers_equals h

end Equal

end HostScript
