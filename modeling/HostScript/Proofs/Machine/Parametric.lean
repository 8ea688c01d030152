import HostScript.Proofs.Machine.Steps
import HostScript.Proofs.Value.Errors

/-!
# What programs do with their machine

A program reaches its machine through a few steps only: it reads and writes variables, calls host
functions, reports statements and fails. `Expr.mentions`, `Statement.mentions` and
`Program.mentions` list the names with which it does so. A relation between computations on two
hosts that is closed under these steps relates the two runs of every program
(`Parametric.executeAll`), and an invariant of one machine that each step keeps holds after every
run (`Invariant.run`): the induction over programs is done here once.
-/

namespace HostScript

/-! ## The names of a program -/

/-- What a program does with a name. -/
inductive Mention where
  | reads (name : String)
  | writes (name : String)
  | calls (name : String)
deriving DecidableEq, Repr

mutual

/-- The variables that an expression reads and the functions that it calls. -/
def Expr.mentions : Expr → List Mention
  | .number _ => []
  | .string _ => []
  | .boolean _ => []
  | .array elements => Expr.listMentions elements
  | .var name => [.reads name]
  | .property base _ => base.mentions
  | .method base _ args => base.mentions ++ Expr.listMentions args
  | .call name args => .calls name :: Expr.listMentions args
  | .binary _ left right => left.mentions ++ right.mentions
  | .not operand => operand.mentions

/-- The mentions of some expressions. -/
def Expr.listMentions : List Expr → List Mention
  | [] => []
  | expr :: exprs => expr.mentions ++ Expr.listMentions exprs

end

mutual

/-- The mentions of a statement. Assignments and loops write a variable. -/
def Statement.mentions : Statement → List Mention
  | .assign name value => .writes name :: value.mentions
  | .call name args => .calls name :: Expr.listMentions args
  | .method base _ args => base.mentions ++ Expr.listMentions args
  | .branch test consequent alternative =>
    test.mentions ++ (Statement.listMentions consequent ++ Statement.listMentions alternative)
  | .forEach binding iterable body =>
    .writes binding :: (iterable.mentions ++ Statement.listMentions body)

/-- The mentions of some statements. -/
def Statement.listMentions : List Statement → List Mention
  | [] => []
  | statement :: statements => statement.mentions ++ Statement.listMentions statements

end

/-- The mentions of a program. -/
def Program.mentions (program : Program) : List Mention :=
  Statement.listMentions program.statements

namespace Machine

variable {σ τ : Type}

/-! ## Two runs -/

/-- A relation between computations on two hosts that is closed under everything that a program
with certain mentions does. -/
structure Parametric (left : HostTable σ) (right : HostTable τ) (allowed : Mention → Prop)
    (Q : ∀ {α : Type}, Run σ α → Run τ α → Prop) : Prop where
  pure {α : Type} (value : α) : Q (pure value) (pure value)
  bind {α β : Type} {first : Run σ α} {other : Run τ α} {next : α → Run σ β}
    {otherNext : α → Run τ β} : Q first other → (∀ value, Q (next value) (otherNext value)) →
    Q (first >>= next) (other >>= otherNext)
  raise {α : Type} {error : RunError} : error.ofValues = true →
    Q (throw error : Run σ α) (throw error)
  report (tag : String) : Q (report (.executing tag)) (report (.executing tag))
  lookup {name : String} : allowed (.reads name) → Q (lookup name) (lookup name)
  assign {name : String} (value : Value) : allowed (.writes name) →
    Q (assign name value) (assign name value)
  contains {name : String} : allowed (.calls name) → left.contains name = right.contains name
  unknown {name : String} : allowed (.calls name) → left.contains name = false →
    Q (throw (.unknownFunction name) : Run σ Value) (throw (.unknownFunction name))
  callHost {name : String} (args : List Value) : allowed (.calls name) →
    left.contains name = true → Q (callHost left name args) (callHost right name args)

namespace Parametric

variable {left : HostTable σ} {right : HostTable τ} {allowed : Mention → Prop}
  {Q : ∀ {α : Type}, Run σ α → Run τ α → Prop} (hQ : Parametric left right allowed Q)

include hQ

/-- A result of operands is related to itself. -/
theorem lift {α : Type} {result : Except RunError α} (h : FailsByValues result) :
    Q (Machine.lift result) (Machine.lift result) := by
  cases result with
  | ok value => exact hQ.pure value
  | error error => exact hQ.raise (h error rfl)

/-- Loops are related if each round is. -/
theorem forM {α : Type} {items : List α} {f : α → Run σ PUnit} {g : α → Run τ PUnit}
    (h : ∀ item, Q (f item) (g item)) : Q (items.forM f) (items.forM g) := by
  induction items with
  | nil => exact hQ.pure _
  | cons item items ih => exact hQ.bind (h item) fun _ => ih

/-- Loops over the items of a value are related if each round is. -/
theorem forEachItem (value : Value) {f : Value → Run σ Unit} {g : Value → Run τ Unit}
    (h : ∀ item, Q (f item) (g item)) :
    Q (Machine.forEachItem value f) (Machine.forEachItem value g) := by
  cases value with
  | array items => exact hQ.forM h
  | _ => exact hQ.pure _

/-- A call is related once its arguments are: whether the function is there is decided first. -/
theorem call {name : String} {args : List Expr} (hname : allowed (.calls name))
    (hargs : Q (evaluateAll left args) (evaluateAll right args)) :
    Q (Machine.evaluate left (.call name args)) (Machine.evaluate right (.call name args)) := by
  have hsame := hQ.contains hname
  cases hthere : left.contains name with
  | false =>
      rw [evaluate_call_of_not_contains hthere, evaluate_call_of_not_contains (hsame ▸ hthere)]
      exact hQ.unknown hname hthere
  | true =>
      rw [evaluate_call_of_contains hthere, evaluate_call_of_contains (hsame ▸ hthere)]
      exact hQ.bind hargs fun values => hQ.callHost values hname hthere

mutual

/-- Both sides evaluate an expression alike if all that it mentions is allowed. -/
theorem evaluate : ∀ expr : Expr, (∀ mention ∈ expr.mentions, allowed mention) →
    Q (Machine.evaluate left expr) (Machine.evaluate right expr)
  | .number _, _ => hQ.pure _
  | .string _, _ => hQ.pure _
  | .boolean _, _ => hQ.pure _
  | .array elements, h => hQ.bind (evaluateAll elements h) fun _ => hQ.pure _
  | .var _, h => hQ.lookup (h _ List.mem_cons_self)
  | .property base name, h =>
      hQ.bind (evaluate base h) fun receiver => hQ.lift (receiver.property_fails name)
  | .method base name args, h =>
      have ⟨hbase, hargs⟩ := List.forall_mem_append.1 h
      hQ.bind (evaluate base hbase) fun receiver => hQ.bind (evaluateAll args hargs) fun values =>
        hQ.lift (receiver.invoke_fails name values)
  | .call _ args, h =>
      have ⟨hname, hargs⟩ := List.forall_mem_cons.1 h
      hQ.call hname (evaluateAll args hargs)
  | .binary operator left right, h =>
      have ⟨hleft, hright⟩ := List.forall_mem_append.1 h
      hQ.bind (evaluate left hleft) fun first => hQ.bind (evaluate right hright) fun second =>
        hQ.lift (operator.apply_fails first second)
  | .not operand, h => hQ.bind (evaluate operand h) fun _ => hQ.pure _

/-- Both sides evaluate a list of expressions alike. -/
theorem evaluateAll : ∀ exprs : List Expr, (∀ mention ∈ Expr.listMentions exprs, allowed mention) →
    Q (Machine.evaluateAll left exprs) (Machine.evaluateAll right exprs)
  | [], _ => hQ.pure _
  | expr :: exprs, h =>
      have ⟨hexpr, hexprs⟩ := List.forall_mem_append.1 h
      hQ.bind (evaluate expr hexpr) fun _ => hQ.bind (evaluateAll exprs hexprs) fun _ => hQ.pure _

end

mutual

/-- Both sides execute a statement alike if all that it mentions is allowed. -/
theorem execute : ∀ statement : Statement, (∀ mention ∈ statement.mentions, allowed mention) →
    Q (Machine.execute left statement) (Machine.execute right statement)
  | .assign _ value, h =>
      have ⟨hname, hvalue⟩ := List.forall_mem_cons.1 h
      hQ.bind (hQ.evaluate value hvalue) fun result => hQ.assign result hname
  | .call name args, h => hQ.bind (hQ.evaluate (.call name args) h) fun _ => hQ.pure _
  | .method base name args, h =>
      hQ.bind (hQ.evaluate (.method base name args) h) fun _ => hQ.pure _
  | .branch test consequent alternative, h => by
      obtain ⟨htest, hblocks⟩ := List.forall_mem_append.1 h
      obtain ⟨hconsequent, halternative⟩ := List.forall_mem_append.1 hblocks
      refine hQ.bind (hQ.evaluate test htest) fun value => ?_
      cases value.isTruthy with
      | true => exact executeAll consequent hconsequent
      | false => exact executeAll alternative halternative
  | .forEach _ iterable body, h => by
      obtain ⟨hbinding, hothers⟩ := List.forall_mem_cons.1 h
      obtain ⟨hiterable, hbody⟩ := List.forall_mem_append.1 hothers
      refine hQ.bind (hQ.evaluate iterable hiterable) fun value =>
        hQ.forEachItem value fun item => ?_
      exact hQ.bind (hQ.assign item hbinding) fun _ => executeAll body hbody

/-- Both sides execute a block alike. -/
theorem executeAll : ∀ statements : List Statement,
    (∀ mention ∈ Statement.listMentions statements, allowed mention) →
      Q (Machine.executeAll left statements) (Machine.executeAll right statements)
  | [], _ => hQ.pure _
  | statement :: statements, h =>
      have ⟨hstatement, hstatements⟩ := List.forall_mem_append.1 h
      hQ.bind (hQ.report _) fun _ => hQ.bind (execute statement hstatement) fun _ =>
        executeAll statements hstatements

end

end Parametric

/-! ## One run -/

section Invariants

variable {α β : Type} {table : HostTable σ} {allowed : Mention → Prop} {I : Machine σ → Prop}
  {F : RunError → Machine σ → Prop}

/-- What holds of the machine at the end of a computation: `I` after a success, and `F` after a
failure. -/
def Ends (I : Machine σ → Prop) (F : RunError → Machine σ → Prop) :
    Except RunError α × Machine σ → Prop
  | (.ok _, machine) => I machine
  | (.error error, machine) => F error machine

/-- What follows in both cases holds in any case. -/
theorem Ends.holds {P : Machine σ → Prop} {result : Except RunError α × Machine σ}
    (h : Ends I F result) (hI : ∀ machine, I machine → P machine)
    (hF : ∀ error machine, F error machine → P machine) : P result.2 :=
  match result, h with
  | (.ok _, machine), h => hI machine h
  | (.error error, machine), h => hF error machine h

/-- After a failure, what is asked of failures holds. -/
theorem Ends.failed {result : Except RunError α × Machine σ} (h : Ends I F result)
    {error : RunError} (herror : result.1 = .error error) : F error result.2 := by
  obtain ⟨outcome, machine⟩ := result
  cases herror
  exact h

/-- A computation that starts with `I` ends with `I` or fails with `F`. -/
def Keeps (I : Machine σ → Prop) (F : RunError → Machine σ → Prop) (first : Run σ α) : Prop :=
  ∀ machine, I machine → Ends I F (first.run machine)

/-- Computations that keep the invariant keep it one after the other. -/
theorem Keeps.bind {first : Run σ α} {next : α → Run σ β} (h : Keeps I F first)
    (hnext : ∀ value, Keeps I F (next value)) : Keeps I F (first >>= next) := by
  intro machine hI
  have hfirst := h machine hI
  rw [run_bind]
  rcases hrun : first.run machine with ⟨error | value, after⟩
  · rw [hrun] at hfirst
    exact hfirst
  · rw [hrun] at hfirst
    exact hnext value after hfirst

/-- An invariant of a machine that each step of a program with certain mentions keeps, and what
each failure makes of it. -/
structure Invariant (table : HostTable σ) (allowed : Mention → Prop) (I : Machine σ → Prop)
    (F : RunError → Machine σ → Prop) : Prop where
  raise {error : RunError} {machine : Machine σ} : error.ofValues = true → I machine →
    F error machine
  report (tag : String) {machine : Machine σ} : I machine →
    I { machine with events := machine.events.push (.executing tag) }
  undefined {name : String} {machine : Machine σ} : allowed (.reads name) →
    machine.registry.get? name = none → I machine → F (.undefinedVariable name) machine
  assign {name : String} (value : Value) {machine : Machine σ} : allowed (.writes name) →
    I machine → I { machine with registry := machine.registry.insert name value }
  unknown {name : String} {machine : Machine σ} : allowed (.calls name) →
    table.contains name = false → I machine → F (.unknownFunction name) machine
  answers {name : String} {function : HostFunction σ} {args : List Value} {machine : Machine σ}
    {value : Value} {context : σ} : allowed (.calls name) → table.get? name = some function →
    function.answer name args machine.context = (.ok value, context) → I machine →
    I (machine.called name args context)
  refuses {name : String} {function : HostFunction σ} {args : List Value} {machine : Machine σ}
    {error : HostError} {context : σ} : allowed (.calls name) → table.get? name = some function →
    function.answer name args machine.context = (.error error, context) → I machine →
    F (.host error) (machine.called name args context)

namespace Invariant

/-- An invariant relates each computation to itself. -/
theorem parametric (h : Invariant table allowed I F) :
    Parametric table table allowed (fun first _ => Keeps I F first) where
  pure _ _ hI := hI
  bind hfirst hnext := hfirst.bind hnext
  raise herror _ hI := h.raise herror hI
  report tag _ hI := h.report tag hI
  lookup {name} hname machine hI := by
    rw [run_lookup]
    cases hget : machine.registry.get? name with
    | none => exact h.undefined hname hget hI
    | some value => exact hI
  assign value hname _ hI := h.assign value hname hI
  contains _ := rfl
  unknown hname hthere _ hI := h.unknown hname hthere hI
  callHost {name} args hname hthere machine hI := by
    obtain ⟨function, hget⟩ := Option.isSome_iff_exists.1 hthere
    rw [run_callHost hget]
    rcases hanswer : function.answer name args machine.context with ⟨error | value, context⟩
    · exact h.refuses hname hget hanswer hI
    · exact h.answers hname hget hanswer hI

/-- An invariant that holds at the start holds at the end of a run, or the run fails. -/
theorem run (h : Invariant table allowed I F) {program : Program}
    (hallowed : ∀ mention ∈ program.mentions, allowed mention) {machine : Machine σ}
    (hI : I machine) : Ends I F (Machine.run table program machine) :=
  h.parametric.executeAll program.statements hallowed machine hI

end Invariant

end Invariants

end Machine

end HostScript
