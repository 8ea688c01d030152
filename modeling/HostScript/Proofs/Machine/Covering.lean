import HostScript.Machine.Run
import HostScript.Proofs.Machine.Steps
import HostScript.Proofs.Program.Numbers

/-!
# Runs that part at an error

One computation covers another if it does the same on every machine or fails with one known error.
Covering is closed under everything that a machine does, so programs that differ only in their
literals are covered as their literals are (`Program.run_covers`).
-/

namespace HostScript.Machine

variable {σ α β : Type} {lost : RunError}

/-- The first computation fails with the known error or does what the second one does. -/
def Covers (lost : RunError) (left right : Run σ α) : Prop :=
  ∀ machine, (left.run machine).1 = .error lost ∨ left.run machine = right.run machine

namespace Covers

/-- A computation covers itself. -/
theorem refl (left : Run σ α) : Covers lost left left :=
  fun _ => .inr rfl

/-- Sequences are covered part by part. -/
theorem bind {left right : Run σ α} {f g : α → Run σ β} (h : Covers lost left right)
    (hnext : ∀ value, Covers lost (f value) (g value)) :
    Covers lost (left >>= f) (right >>= g) := by
  intro machine
  rw [run_bind, run_bind]
  rcases h machine with hlost | hsame
  · left
    rcases hleft : left.run machine with ⟨result, after⟩
    rw [hleft] at hlost
    cases hlost
    rfl
  · rw [← hsame]
    rcases left.run machine with ⟨error | value, after⟩
    · exact .inr rfl
    · exact hnext value after

/-- Loops over a list are covered if each round is. -/
theorem forM {items : List α} {f g : α → Run σ PUnit}
    (h : ∀ item, Covers lost (f item) (g item)) : Covers lost (items.forM f) (items.forM g) := by
  induction items with
  | nil => exact refl _
  | cons item items ih => exact (h item).bind fun _ => ih

end Covers

/-- Loops over the items of a value are covered if each round is. -/
theorem forEachItem_covers (value : Value) {f g : Value → Run σ Unit}
    (h : ∀ item, Covers lost (f item) (g item)) :
    Covers lost (forEachItem value f) (forEachItem value g) := by
  cases value with
  | array items => exact .forM h
  | _ => exact .refl _

section Replacing

variable {table : HostTable σ} {f g : Binary64 → Expr}

mutual

/-- One replacement of numbers covers another in expressions if it does for each number. -/
theorem evaluate_covers
    (h : ∀ number, Covers lost (evaluate table (f number)) (evaluate table (g number))) :
    ∀ expr : Expr, Covers lost (evaluate table (expr.replaceNumbers f))
      (evaluate table (expr.replaceNumbers g))
  | .number value => h value
  | .string _ => .refl _
  | .boolean _ => .refl _
  | .array elements => (evaluateAll_covers h elements).bind fun _ => .refl _
  | .var _ => .refl _
  | .property base _ => (evaluate_covers h base).bind fun _ => .refl _
  | .method base _ args =>
      (evaluate_covers h base).bind fun _ => (evaluateAll_covers h args).bind fun _ => .refl _
  | .call _ args =>
      (Covers.refl _).bind fun _ => (evaluateAll_covers h args).bind fun _ => .refl _
  | .binary _ left right =>
      (evaluate_covers h left).bind fun _ => (evaluate_covers h right).bind fun _ => .refl _
  | .not operand => (evaluate_covers h operand).bind fun _ => .refl _

/-- One replacement of numbers covers another in lists if it does for each number. -/
theorem evaluateAll_covers
    (h : ∀ number, Covers lost (evaluate table (f number)) (evaluate table (g number))) :
    ∀ exprs : List Expr, Covers lost (evaluateAll table (Expr.listReplaceNumbers f exprs))
      (evaluateAll table (Expr.listReplaceNumbers g exprs))
  | [] => .refl _
  | expr :: exprs =>
      (evaluate_covers h expr).bind fun _ => (evaluateAll_covers h exprs).bind fun _ => .refl _

end

mutual

/-- One replacement of numbers covers another in statements if it does for each number. -/
theorem execute_covers
    (h : ∀ number, Covers lost (evaluate table (f number)) (evaluate table (g number))) :
    ∀ statement : Statement, Covers lost (execute table (statement.replaceNumbers f))
      (execute table (statement.replaceNumbers g))
  | .assign _ value => (evaluate_covers h value).bind fun _ => .refl _
  | .call name args => (evaluate_covers h (.call name args)).bind fun _ => .refl _
  | .method base name args => (evaluate_covers h (.method base name args)).bind fun _ => .refl _
  | .branch test consequent alternative => by
      refine (evaluate_covers h test).bind fun value => ?_
      cases value.isTruthy with
      | true => exact executeAll_covers h consequent
      | false => exact executeAll_covers h alternative
  | .forEach _ iterable body =>
      (evaluate_covers h iterable).bind fun value => forEachItem_covers value fun _ =>
        (Covers.refl _).bind fun _ => executeAll_covers h body

/-- One replacement of numbers covers another in blocks if it does for each number. -/
theorem executeAll_covers
    (h : ∀ number, Covers lost (evaluate table (f number)) (evaluate table (g number))) :
    ∀ statements : List Statement, Covers lost
      (executeAll table (Statement.listReplaceNumbers f statements))
      (executeAll table (Statement.listReplaceNumbers g statements))
  | [] => .refl _
  | statement :: statements => by
      -- The event of a statement tells its tag only.
      have htag : (statement.replaceNumbers f).tag = (statement.replaceNumbers g).tag := by
        cases statement <;> rfl
      rw [Statement.listReplaceNumbers, Statement.listReplaceNumbers, executeAll, executeAll, htag]
      exact (Covers.refl _).bind fun _ =>
        (execute_covers h statement).bind fun _ => executeAll_covers h statements

end

end Replacing

end HostScript.Machine

namespace HostScript.Program

/-- A run gives the context of the machine that it leaves, or the error of that machine. -/
theorem run_eq_map (program : Program) (table : HostTable Context) (context : Context) :
    program.run table context =
      (Machine.run table program (.start context)).1.map fun _ =>
        (Machine.run table program (.start context)).2.context := by
  unfold run trace
  rcases Machine.run table program (.start context) with ⟨_ | _, _⟩
  · rfl
  · rfl

/-- A run with other literals fails with the known error or has the same result, if that is so for
each literal. -/
theorem run_covers {lost : RunError} {table : HostTable Context} {f g : Binary64 → Expr}
    (h : ∀ number, Machine.Covers lost (Machine.evaluate table (f number))
      (Machine.evaluate table (g number))) (program : Program) (context : Context) :
    (program.replaceNumbers f).run table context = .error lost ∨
      (program.replaceNumbers f).run table context =
        (program.replaceNumbers g).run table context := by
  rw [run_eq_map, run_eq_map]
  rcases Machine.executeAll_covers h program.statements (.start context) with hlost | hsame
  · left
    have hfailed : (Machine.run table (program.replaceNumbers f) (.start context)).1 =
        .error lost := hlost
    rw [hfailed]
    rfl
  · right
    have hrun : Machine.run table (program.replaceNumbers f) (.start context) =
        Machine.run table (program.replaceNumbers g) (.start context) := hsame
    rw [hrun]

end HostScript.Program
