import HostScript.Proofs.Dictionary
import HostScript.Proofs.Machine.Steps
import HostScript.Proofs.Value.Errors
import Mathlib.Logic.Equiv.Basic

/-!
# Names of variables

The names of variables mean nothing. A program whose variables all have other names does the same
on a machine whose variables have these names, even if a variable is now called like a host
function, a property or a method. Only an error about an undefined variable tells the other name.
Read `run_rename` first.
-/

namespace HostScript

variable (r : String → String)

/-! ## Renaming -/

mutual

/-- The expression with other names of variables. Functions, properties and methods keep theirs. -/
def Expr.rename : Expr → Expr
  | .number value => .number value
  | .string value => .string value
  | .boolean value => .boolean value
  | .array elements => .array (Expr.listRename elements)
  | .var name => .var (r name)
  | .property base name => .property base.rename name
  | .method base name args => .method base.rename name (Expr.listRename args)
  | .call name args => .call name (Expr.listRename args)
  | .binary operator left right => .binary operator left.rename right.rename
  | .not operand => .not operand.rename

/-- Some expressions with other names of variables. -/
def Expr.listRename : List Expr → List Expr
  | [] => []
  | expr :: exprs => expr.rename :: Expr.listRename exprs

end

mutual

/-- The statement with other names of variables, of those that it binds too. -/
def Statement.rename : Statement → Statement
  | .assign name value => .assign (r name) (value.rename r)
  | .call name args => .call name (Expr.listRename r args)
  | .method base name args => .method (base.rename r) name (Expr.listRename r args)
  | .branch test consequent alternative =>
    .branch (test.rename r) (Statement.listRename consequent) (Statement.listRename alternative)
  | .forEach binding iterable body =>
    .forEach (r binding) (iterable.rename r) (Statement.listRename body)

/-- Some statements with other names of variables. -/
def Statement.listRename : List Statement → List Statement
  | [] => []
  | statement :: statements => statement.rename :: Statement.listRename statements

end

/-- The program with other names of variables. -/
def Program.rename (program : Program) : Program :=
  ⟨Statement.listRename r program.statements⟩

/-- The error with other names of variables. -/
def RunError.rename : RunError → RunError
  | .undefinedVariable name => .undefinedVariable (r name)
  | error => error

/-- The machine with other names of variables. -/
def Machine.rename {σ : Type} (machine : Machine σ) : Machine σ :=
  { machine with registry := machine.registry.mapKeys r }

variable {r}

/-- A renamed statement reports the same tag. -/
theorem Statement.tag_rename (statement : Statement) :
    (statement.rename r).tag = statement.tag := by
  cases statement <;> rfl

/-- Errors about values do not tell names of variables. -/
theorem RunError.rename_of_ofValues {error : RunError} (h : error.ofValues = true) :
    error.rename r = error := by
  cases error with
  | undefinedVariable => cases h
  | _ => rfl

namespace Machine

variable {σ α β : Type}

/-! ## Steps -/

/-- On the renamed machine, the other computation has the renamed result of the first one and leaves
the renamed machine. -/
def Renames (r : String → String) (first other : Run σ α) : Prop :=
  ∀ machine, other.run (machine.rename r) =
    ((first.run machine).1.mapError (RunError.rename r), (first.run machine).2.rename r)

namespace Renames

/-- Giving a value names no variable. -/
theorem pure (value : α) : Renames r (pure value : Run σ α) (pure value) :=
  fun _ => rfl

/-- Computations can be renamed one after the other. -/
theorem bind {first other : Run σ α} {next otherNext : α → Run σ β} (h : Renames r first other)
    (hnext : ∀ value, Renames r (next value) (otherNext value)) :
    Renames r (first >>= next) (other >>= otherNext) := by
  intro machine
  rw [run_bind, run_bind, h machine]
  rcases first.run machine with ⟨error | value, after⟩
  · rfl
  · exact hnext value after

/-- An error that names no variable is the renamed one. -/
theorem throw {error : RunError} (h : error.rename r = error) :
    Renames r (throw error : Run σ α) (throw error) := by
  intro machine
  show (Except.error error, machine.rename r) = (Except.error (error.rename r), machine.rename r)
  rw [h]

/-- The errors of operands name no variable. -/
theorem lift {result : Except RunError α} (h : FailsByValues result) :
    Renames r (Machine.lift result : Run σ α) (Machine.lift result) := by
  cases result with
  | ok value => exact .pure value
  | error error => exact .throw (RunError.rename_of_ofValues (h error rfl))

/-- Reporting names no variable. -/
theorem report (event : Event) :
    Renames r (Machine.report event : Run σ Unit) (Machine.report event) :=
  fun _ => rfl

/-- The variable of the other name is bound to the same value, or not at all. -/
theorem lookup (hr : Function.Injective r) (name : String) :
    Renames r (Machine.lookup name : Run σ Value) (Machine.lookup (r name)) := by
  intro machine
  have hget : (machine.rename r).registry.get? (r name) = machine.registry.get? name :=
    Dictionary.get?_mapKeys hr machine.registry name
  rw [run_lookup, run_lookup, hget]
  cases machine.registry.get? name with
  | none => rfl
  | some value => rfl

/-- Assigning to the renamed variable leaves the renamed registry, since no two variables become
one. -/
theorem assign (hr : Function.Injective r) (name : String) (value : Value) :
    Renames r (Machine.assign name value : Run σ Unit) (Machine.assign (r name) value) := by
  intro machine
  show (Except.ok (),
      { machine with registry := (machine.registry.mapKeys r).insert (r name) value }) =
    (Except.ok (), { machine with registry := (machine.registry.insert name value).mapKeys r })
  rw [Dictionary.mapKeys_insert hr]

/-- A function sees its arguments and the context, and none of the variables. -/
theorem callHost {table : HostTable σ} {name : String} (h : table.contains name = true)
    (args : List Value) :
    Renames r (Machine.callHost table name args) (Machine.callHost table name args) := by
  obtain ⟨function, hget⟩ := Option.isSome_iff_exists.1 h
  intro machine
  rw [run_callHost hget, run_callHost hget,
    show (machine.rename r).context = machine.context from rfl]
  rcases function.answer name args machine.context with ⟨_ | _, _⟩
  · rfl
  · rfl

/-- Whether a function is there does not depend on the variables. -/
theorem call {table : HostTable σ} {args otherArgs : List Expr} (name : String)
    (h : Renames r (evaluateAll table args) (evaluateAll table otherArgs)) :
    Renames r (Machine.evaluate table (.call name args))
      (Machine.evaluate table (.call name otherArgs)) := by
  cases hthere : table.contains name with
  | false =>
      rw [evaluate_call_of_not_contains hthere, evaluate_call_of_not_contains hthere]
      exact .throw rfl
  | true =>
      rw [evaluate_call_of_contains hthere, evaluate_call_of_contains hthere]
      exact h.bind fun values => .callHost hthere values

/-- Loops can be renamed if each round can. -/
theorem forM {items : List α} {action otherAction : α → Run σ PUnit}
    (h : ∀ item, Renames r (action item) (otherAction item)) :
    Renames r (items.forM action) (items.forM otherAction) := by
  induction items with
  | nil => exact .pure _
  | cons item items ih => exact (h item).bind fun _ => ih

/-- Loops over the items of a value can be renamed if each round can. -/
theorem forEachItem (value : Value) {action otherAction : Value → Run σ Unit}
    (h : ∀ item, Renames r (action item) (otherAction item)) :
    Renames r (Machine.forEachItem value action) (Machine.forEachItem value otherAction) := by
  cases value with
  | array items => exact .forM h
  | _ => exact .pure _

/-! ## Programs -/

mutual

/-- Renaming goes through expressions, by recursion over them. -/
theorem evaluate (hr : Function.Injective r) (table : HostTable σ) : ∀ expr : Expr,
    Renames r (Machine.evaluate table expr) (Machine.evaluate table (expr.rename r))
  | .number _ => .pure _
  | .string _ => .pure _
  | .boolean _ => .pure _
  | .array elements => (evaluateAll hr table elements).bind fun _ => .pure _
  | .var name => .lookup hr name
  | .property base name =>
      (evaluate hr table base).bind fun receiver => .lift (receiver.property_fails name)
  | .method base name args => (evaluate hr table base).bind fun receiver =>
      (evaluateAll hr table args).bind fun values => .lift (receiver.invoke_fails name values)
  | .call name args => .call name (evaluateAll hr table args)
  | .binary operator left right => (evaluate hr table left).bind fun first =>
      (evaluate hr table right).bind fun second => .lift (operator.apply_fails first second)
  | .not operand => (evaluate hr table operand).bind fun _ => .pure _

/-- Renaming goes through lists of expressions. -/
theorem evaluateAll (hr : Function.Injective r) (table : HostTable σ) : ∀ exprs : List Expr,
    Renames r (Machine.evaluateAll table exprs)
      (Machine.evaluateAll table (Expr.listRename r exprs))
  | [] => .pure _
  | expr :: exprs => (evaluate hr table expr).bind fun _ =>
      (evaluateAll hr table exprs).bind fun _ => .pure _

end

mutual

/-- Renaming goes through statements, by recursion over them. -/
theorem execute (hr : Function.Injective r) (table : HostTable σ) : ∀ statement : Statement,
    Renames r (Machine.execute table statement) (Machine.execute table (statement.rename r))
  | .assign name value => (evaluate hr table value).bind fun result => .assign hr name result
  | .call name args => (evaluate hr table (.call name args)).bind fun _ => .pure _
  | .method base name args => (evaluate hr table (.method base name args)).bind fun _ => .pure _
  | .branch test consequent alternative => by
      refine (evaluate hr table test).bind fun value => ?_
      cases value.isTruthy with
      | true => exact executeAll hr table consequent
      | false => exact executeAll hr table alternative
  | .forEach binding iterable body => (evaluate hr table iterable).bind fun value =>
      .forEachItem value fun item =>
        (Renames.assign hr binding item).bind fun _ => executeAll hr table body

/-- Renaming goes through blocks. -/
theorem executeAll (hr : Function.Injective r) (table : HostTable σ) :
    ∀ statements : List Statement, Renames r (Machine.executeAll table statements)
      (Machine.executeAll table (Statement.listRename r statements))
  | [] => .pure _
  | statement :: statements => by
      rw [Statement.listRename, Machine.executeAll, Machine.executeAll, Statement.tag_rename]
      exact (Renames.report _).bind fun _ => (execute hr table statement).bind fun _ =>
        executeAll hr table statements

end

end Renames

/-- Under other names of variables, no two of which become one, a program has the same result and
leaves the same context, events and values, the values under their other names. Variables of names
that were not given are not bound. An error is the same one, and only tells the other name of an
undefined variable. -/
theorem run_rename {r : String → String} (hr : Function.Injective r) (table : HostTable σ)
    (program : Program) (machine : Machine σ) :
    let before := run table program machine
    let after := run table (program.rename r) (machine.rename r)
    after.1 = before.1.mapError (RunError.rename r) ∧
    after.2.context = before.2.context ∧
    after.2.events = before.2.events ∧
    after.2.registry = before.2.registry.mapKeys r ∧
    (∀ name, after.2.registry.get? (r name) = before.2.registry.get? name) ∧
    ∀ name, (∀ older, r older ≠ name) → after.2.registry.get? name = none := by
  intro before after
  have hafter : after = (before.1.mapError (RunError.rename r), before.2.rename r) :=
    Renames.executeAll hr table program.statements machine
  rw [hafter]
  exact ⟨rfl, rfl, rfl, rfl, Dictionary.get?_mapKeys hr before.2.registry,
    fun _ h => Dictionary.get?_mapKeys_of_forall_ne h before.2.registry⟩

/-- A loop that reads a variable which is never bound, after it called a function. -/
def forgetful : Program :=
  ⟨[.forEach "x" (.array [.string "a"]) [.call "f" [.var "x"], .assign "y" (.var "z")]]⟩

/-- The loop goes on as before if its variable is called like the function, and the undefined
variable like the variable of the loop. -/
theorem run_rename_forgetful :
    let r : String → String := (Equiv.swap "x" "f").trans (Equiv.swap "z" "x")
    let machine : Machine Nat := ⟨.ofList [("kept", .null)], 0, #[]⟩
    let table : HostTable Nat := .ofList [("f", ⟨some 1, fun _ calls => (.ok .null, calls + 1)⟩)]
    let after := run table (forgetful.rename r) (machine.rename r)
    forgetful.rename r =
      ⟨[.forEach "f" (.array [.string "a"]) [.call "f" [.var "f"], .assign "y" (.var "x")]]⟩ ∧
    after.1 = .error (.undefinedVariable "x") ∧ after.2.context = 1 ∧
    after.2.registry.get? "f" = some (.string "a") ∧
    after.2.registry.get? "kept" = some .null := by
  intro r machine table after
  have hr : Function.Injective r := ((Equiv.swap "x" "f").trans (Equiv.swap "z" "x")).injective
  obtain ⟨hresult, hcontext, -, -, hvalues, -⟩ := run_rename hr table forgetful machine
  exact ⟨rfl, hresult, hcontext, hvalues "x", hvalues "kept"⟩

end Machine

end HostScript
