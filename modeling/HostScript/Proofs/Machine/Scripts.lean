import HostScript.Proofs.Machine.Steps
import Mathlib.Data.List.Chain

/-!
# Programs as scripts

A program reaches its machine through single steps only. Its script tells which ones: each step is
taken with what the machine answered to the steps before it. To perform the script of a program is
to run the program (`perform_script`), so the machines between the steps are the points that a run
passes through, its `history`. A run keeps what each step of its script keeps (`Obeys.perform`).
-/

namespace HostScript

variable {σ α β : Type}

/-- A single step of a run, and what it gives when it does not fail. -/
inductive Step : Type → Type where
  | raise (error : RunError) : Step Empty
  | report (tag : String) : Step Unit
  | lookup (name : String) : Step Value
  | assign (name : String) (value : Value) : Step Unit
  | require (name : String) : Step Unit
  | call (name : String) (args : List Value) : Step Value

/-- What a step does with a machine. -/
def Step.perform (table : HostTable σ) : Step α → Machine.Run σ α
  | .raise error => throw error
  | .report tag => Machine.report (.executing tag)
  | .lookup name => Machine.lookup name
  | .assign name value => Machine.assign name value
  | .require name => Machine.requireFunction table name
  | .call name args => Machine.callHost table name args

/-- Steps up to a value, each of them chosen by the answers to the steps before it. -/
inductive Script (α : Type) : Type 1 where
  | done (value : α)
  | step {β : Type} (first : Step β) (others : β → Script α)

namespace Script

/-- One script after another. -/
def andThen (script : Script α) (next : α → Script β) : Script β :=
  match script with
  | .done value => next value
  | .step first others => .step first fun answer => (others answer).andThen next

instance : Monad Script where
  pure := .done
  bind := .andThen

/-- The script of one step. -/
def take (step : Step α) : Script α :=
  .step step .done

/-- A result that needs no machine. -/
def lift : Except RunError α → Script α
  | .ok value => return value
  | .error error => .step (.raise error) nofun

/-- The script of an action for each item of an array; any other value has no items. -/
def forEachItem (value : Value) (action : Value → Script Unit) : Script Unit :=
  match value with
  | .array items => items.forM action
  | _ => return ()

end Script

mutual

/-- The steps that give the value of an expression. -/
def Expr.script : Expr → Script Value
  | .number value => return .number value
  | .string value => return .string value
  | .boolean value => return .boolean value
  | .array elements => do return .array (← Expr.listScript elements)
  | .var name => .take (.lookup name)
  | .property base name => do .lift ((← base.script).property name)
  | .method base name args => do
    let receiver ← base.script
    let args ← Expr.listScript args
    .lift (receiver.invoke name args)
  | .call name args => do
    Script.take (.require name)
    let args ← Expr.listScript args
    .take (.call name args)
  | .binary operator left right => do
    let left ← left.script
    let right ← right.script
    .lift (operator.apply left right)
  | .not operand => do return .boolean !(← operand.script).isTruthy

/-- The steps that give the values of some expressions. -/
def Expr.listScript : List Expr → Script (List Value)
  | [] => return []
  | expr :: exprs => do
    let value ← expr.script
    return value :: (← Expr.listScript exprs)

end

mutual

/-- The steps of a statement. -/
def Statement.script : Statement → Script Unit
  | .assign name value => do Script.take (.assign name (← value.script))
  | .call name args => discard (Expr.script (.call name args))
  | .method base name args => discard (Expr.script (.method base name args))
  | .branch test consequent alternative => do
    if (← test.script).isTruthy then Statement.listScript consequent
    else Statement.listScript alternative
  | .forEach binding iterable body => do
    let value ← iterable.script
    Script.forEachItem value fun item => do
      Script.take (.assign binding item)
      Statement.listScript body

/-- The steps of some statements. -/
def Statement.listScript : List Statement → Script Unit
  | [] => return ()
  | statement :: statements => do
    Script.take (.report statement.tag)
    statement.script
    Statement.listScript statements

end

/-- The steps of a program. -/
def Program.script (program : Program) : Script Unit :=
  Statement.listScript program.statements

namespace Script

/-! ## Performing -/

/-- What a script does with a machine. -/
def perform (table : HostTable σ) : Script α → Machine.Run σ α
  | .done value => return value
  | .step first others => do (others (← first.perform table)).perform table

variable (table : HostTable σ)

/-- Scripts are performed one after the other. -/
theorem perform_bind (script : Script α) (next : α → Script β) :
    (script >>= next).perform table =
      (do (next (← script.perform table)).perform table) := by
  induction script with
  | done value => exact (pure_bind value fun value => (next value).perform table).symm
  | step first others ih =>
      show (do ((others (← first.perform table)).andThen next).perform table) = _
      rw [perform, bind_assoc]
      exact congrArg _ (funext ih)

/-- A script without steps gives its value. -/
theorem perform_pure (value : α) : (pure value : Script α).perform table = pure value := rfl

/-- A script of one step performs the step. -/
theorem perform_take (step : Step α) : (take step).perform table = step.perform table :=
  bind_pure _

/-- A result of operands is lifted. -/
theorem perform_lift (result : Except RunError α) :
    (lift result).perform table = Machine.lift result := by
  cases result with
  | ok value => rfl
  | error error => rfl

/-- A loop over items performs the script of each item. -/
theorem perform_forEachItem (value : Value) (action : Value → Script Unit) :
    (forEachItem value action).perform table =
      Machine.forEachItem value fun item => (action item).perform table := by
  cases value with
  | array items =>
      show (items.forM action).perform table =
        items.forM fun item => (action item).perform table
      induction items with
      | nil => rfl
      | cons item items ih =>
          show (action item >>= fun _ => items.forM action).perform table = _
          rw [perform_bind, ih]
          rfl
  | _ => rfl

mutual

/-- The script of an expression evaluates it. -/
theorem perform_expr : ∀ expr : Expr, expr.script.perform table = Machine.evaluate table expr
  | .number _ => rfl
  | .string _ => rfl
  | .boolean _ => rfl
  | .array elements => by
      simp only [Expr.script, Machine.evaluate, perform_bind, perform_exprs elements, perform_pure]
  | .var name => perform_take table (.lookup name)
  | .property base name => by
      simp only [Expr.script, Machine.evaluate, perform_bind, perform_expr base, perform_lift]
  | .method base name args => by
      simp only [Expr.script, Machine.evaluate, perform_bind, perform_expr base,
        perform_exprs args, perform_lift]
  | .call name args => by
      simp only [Expr.script, Machine.evaluate, perform_bind, perform_exprs args, perform_take]
      rfl
  | .binary operator left right => by
      simp only [Expr.script, Machine.evaluate, perform_bind, perform_expr left,
        perform_expr right, perform_lift]
  | .not operand => by
      simp only [Expr.script, Machine.evaluate, perform_bind, perform_expr operand, perform_pure]

/-- The script of a list of expressions evaluates the list. -/
theorem perform_exprs : ∀ exprs : List Expr,
    (Expr.listScript exprs).perform table = Machine.evaluateAll table exprs
  | [] => rfl
  | expr :: exprs => by
      simp only [Expr.listScript, Machine.evaluateAll, perform_bind, perform_expr expr,
        perform_exprs exprs, perform_pure]

end

mutual

/-- The script of a statement executes it. -/
theorem perform_statement : ∀ statement : Statement,
    statement.script.perform table = Machine.execute table statement
  | .assign name value => by
      simp only [Statement.script, Machine.execute, perform_bind, perform_expr, perform_take]
      rfl
  | .call name args => by
      rw [Statement.script, Machine.execute, ← perform_expr]
      exact perform_bind table _ _
  | .method base name args => by
      rw [Statement.script, Machine.execute, ← perform_expr]
      exact perform_bind table _ _
  | .branch test consequent alternative => by
      simp only [Statement.script, Machine.execute, perform_bind, perform_expr]
      refine congrArg _ (funext fun value => ?_)
      cases value.isTruthy with
      | true => exact perform_block consequent
      | false => exact perform_block alternative
  | .forEach binding iterable body => by
      simp only [Statement.script, Machine.execute, perform_bind, perform_expr,
        perform_forEachItem, perform_take, perform_block body]
      rfl

/-- The script of a block executes the block. -/
theorem perform_block : ∀ statements : List Statement,
    (Statement.listScript statements).perform table = Machine.executeAll table statements
  | [] => rfl
  | statement :: statements => by
      simp only [Statement.listScript, Machine.executeAll, perform_bind, perform_take,
        perform_statement statement, perform_block statements]
      rfl

end

/-- To perform the script of a program is to run the program. -/
theorem perform_script (program : Program) (machine : Machine σ) :
    (program.script.perform table).run machine = Machine.run table program machine := by
  rw [Program.script, perform_block]
  rfl

/-! ## The points of a run -/

/-- The machines after each step of a script. -/
def points (table : HostTable σ) : Script α → Machine σ → List (Machine σ)
  | .done _, _ => []
  | .step first others, machine =>
    match (first.perform table).run machine with
    | (.ok answer, after) => after :: (others answer).points table after
    | (.error _, after) => [after]

/-- The last step leaves what the script leaves. -/
theorem getLastD_points (script : Script α) (machine : Machine σ) :
    (script.points table machine).getLastD machine =
      ((script.perform table).run machine).2 := by
  induction script generalizing machine with
  | done value => rfl
  | step first others ih =>
      rw [points, perform, Machine.run_bind]
      rcases (first.perform table).run machine with ⟨error | answer, after⟩
      · rfl
      · exact (List.getLastD_cons ..).trans (ih answer after)

/-- Each step starts where the one before it ended. -/
theorem isChain_points (script : Script α) (machine : Machine σ) :
    (machine :: script.points table machine).IsChain fun before after =>
      ∃ (β : Type) (step : Step β), after = ((step.perform table).run before).2 := by
  induction script generalizing machine with
  | done value => exact .singleton machine
  | step first others ih =>
      rw [points]
      rcases hrun : (first.perform table).run machine with ⟨error | answer, after⟩
      · exact .cons_cons ⟨_, first, by rw [hrun]⟩ (.singleton after)
      · exact .cons_cons ⟨_, first, by rw [hrun]⟩ (ih answer after)

end Script

namespace Machine

/-- The points that a run passes through: the machine at its start and after each step. -/
def history (table : HostTable σ) (program : Program) (machine : Machine σ) : List (Machine σ) :=
  machine :: program.script.points table machine

/-- A run passes through its points one step after another, up to the machine that it leaves. -/
theorem history_of_run (table : HostTable σ) (program : Program) (machine : Machine σ) :
    (history table program machine).head? = some machine ∧
    (history table program machine).IsChain (fun before after =>
      ∃ (β : Type) (step : Step β), after = ((step.perform table).run before).2) ∧
    (history table program machine).getLast? = some (run table program machine).2 := by
  refine ⟨rfl, Script.isChain_points table program.script machine, ?_⟩
  rw [← Script.perform_script, ← Script.getLastD_points, List.getLastD_eq_getLast?]
  exact List.getLast?_cons

end Machine

/-! ## What a run keeps -/

/-- What steps are allowed to do, and what may be relied on in their answers. -/
structure Policy where
  allows : ∀ {α : Type}, Step α → Prop
  gives : ∀ {α : Type}, Step α → α → Prop

/-- A result that holds what is asked for or an error of a known sort, and a machine that keeps an
invariant. -/
def Machine.Yields (P : α → Prop) (E : RunError → Prop) (I : Machine σ → Prop) :
    Except RunError α × Machine σ → Prop
  | (.ok value, machine) => P value ∧ I machine
  | (.error error, machine) => E error ∧ I machine

/-- The invariant holds of the machine after a success and after a failure. -/
theorem Machine.Yields.kept {P : α → Prop} {E : RunError → Prop} {I : Machine σ → Prop}
    {result : Except RunError α × Machine σ} (h : Yields P E I result) : I result.2 :=
  match result, h with
  | (.ok _, _), h => h.2
  | (.error _, _), h => h.2

/-- An error is one of the known sort. -/
theorem Machine.Yields.failed {P : α → Prop} {E : RunError → Prop} {I : Machine σ → Prop}
    {result : Except RunError α × Machine σ} (h : Yields P E I result) {error : RunError}
    (herror : result.1 = .error error) : E error := by
  obtain ⟨outcome, machine⟩ := result
  cases herror
  exact h.1

/-- All that is allowed keeps an invariant, gives what may be relied on and fails with errors of a
known sort. -/
def Policy.Maintains (policy : Policy) (table : HostTable σ) (E : RunError → Prop)
    (I : Machine σ → Prop) : Prop :=
  ∀ (α : Type) (step : Step α) (machine : Machine σ), policy.allows step → I machine →
    Machine.Yields (policy.gives step) E I ((step.perform table).run machine)

namespace Script

/-- All steps of the script are allowed, given that the answers are what may be relied on, and what
it comes to holds what is asked for. -/
def Obeys (policy : Policy) (P : α → Prop) : Script α → Prop
  | .done value => P value
  | .step first others =>
    policy.allows first ∧ ∀ answer, policy.gives first answer → (others answer).Obeys policy P

namespace Obeys

variable {policy : Policy} {P : α → Prop} {Q : β → Prop} {script : Script α}

/-- Scripts that obey a policy obey it one after the other. -/
theorem bind {next : α → Script β} (h : script.Obeys policy P)
    (hnext : ∀ value, P value → (next value).Obeys policy Q) :
    (script >>= next).Obeys policy Q := by
  induction script with
  | done value => exact hnext value h
  | step first others ih => exact ⟨h.1, fun answer hanswer => ih answer (h.2 answer hanswer)⟩

/-- A single allowed step obeys, and its answer may be relied on. -/
theorem take (step : Step α) (h : policy.allows step)
    (hgives : ∀ answer, policy.gives step answer → P answer) : (Script.take step).Obeys policy P :=
  ⟨h, hgives⟩

/-- A loop obeys if each of its rounds does. -/
theorem forEachItem {value : Value} {action : Value → Script Unit} {P : Unit → Prop} (hP : P ())
    (h : ∀ items, value = .array items → ∀ item ∈ items, (action item).Obeys policy P) :
    (Script.forEachItem value action).Obeys policy P := by
  cases value with
  | array items =>
      have hitems := h items rfl
      clear h
      show (items.forM action).Obeys policy P
      induction items with
      | nil => exact hP
      | cons item items ih =>
          obtain ⟨hitem, hitems⟩ := List.forall_mem_cons.1 hitems
          exact hitem.bind fun _ _ => ih hitems
  | _ => exact hP

variable {table : HostTable σ} {E : RunError → Prop} {I : Machine σ → Prop}

/-- What all allowed steps keep holds at every point of a script that obeys. -/
theorem points (h : script.Obeys policy P) (hpolicy : policy.Maintains table E I)
    (machine : Machine σ) (hI : I machine) : ∀ point ∈ script.points table machine, I point := by
  induction script generalizing machine with
  | done value => exact List.forall_mem_nil _
  | step first others ih =>
      have hfirst := hpolicy _ first machine h.1 hI
      rw [Script.points]
      rcases hrun : (first.perform table).run machine with ⟨error | answer, after⟩
      · rw [hrun] at hfirst
        exact List.forall_mem_singleton.2 hfirst.2
      · rw [hrun] at hfirst
        exact List.forall_mem_cons.2
          ⟨hfirst.2, ih answer (h.2 answer hfirst.1) after hfirst.2⟩

/-- A script that obeys yields what it should. -/
theorem perform (h : script.Obeys policy P) (hpolicy : policy.Maintains table E I)
    (machine : Machine σ) (hI : I machine) :
    Machine.Yields P E I ((script.perform table).run machine) := by
  induction script generalizing machine with
  | done value => exact ⟨h, hI⟩
  | step first others ih =>
      have hfirst := hpolicy _ first machine h.1 hI
      rw [Script.perform, Machine.run_bind]
      rcases hrun : (first.perform table).run machine with ⟨error | answer, after⟩
      · rw [hrun] at hfirst
        exact hfirst
      · rw [hrun] at hfirst
        exact ih answer (h.2 answer hfirst.1) after hfirst.2

end Obeys

end Script

end HostScript
