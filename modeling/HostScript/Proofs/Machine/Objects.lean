import HostScript.Proofs.Machine.Invocations
import HostScript.Proofs.Machine.Scripts
import HostScript.Proofs.Value.Objects

/-!
# Objects come from the host

If the functions of a host give no objects, a run that starts without objects never meets one,
whatever its context holds: there is none in a variable at any point of the run, none is handed to
a function, and no error tells of one. Read `run_without_objects` first.
-/

namespace HostScript

variable {σ α : Type}

/-! ## Steps without objects -/

namespace Step

/-- A step that brings no object into a run. -/
def BringsNoObject : Step α → Prop
  | .raise error => error.namesObject = false
  | .assign _ value => value.hasObject = false
  | .call _ args => ∀ arg ∈ args, arg.hasObject = false
  | _ => True

/-- An answer without objects. -/
def GivesNoObject : Step α → α → Prop
  | .lookup _, value => value.hasObject = false
  | .call _ _, value => value.hasObject = false
  | _, _ => True

end Step

/-- Steps that bring no objects, as long as no answer holds one. -/
def withoutObjects : Policy where
  allows := Step.BringsNoObject
  gives := Step.GivesNoObject

open Script (Obeys)

/-- A result that spares objects obeys the policy as a script. -/
theorem Spares.obeys {P : α → Prop} {result : Except RunError α} (h : Spares P result) :
    (Script.lift result).Obeys withoutObjects P := by
  cases result with
  | ok value => exact h
  | error error => exact ⟨h, nofun⟩

mutual

/-- The value of an expression holds no object if no variable and no answer of the host does. -/
theorem Expr.script_obeys : ∀ expr : Expr,
    expr.script.Obeys withoutObjects fun value => value.hasObject = false
  | .number _ => rfl
  | .string _ => rfl
  | .boolean _ => rfl
  | .array elements => (Expr.listScript_obeys elements).bind fun _ hvalues =>
      Value.hasObject_array_eq_false_iff.2 hvalues
  | .var name => .take (.lookup name) trivial fun _ hvalue => hvalue
  | .property base name => (Expr.script_obeys base).bind fun _ hbase =>
      (Value.property_spares hbase name).obeys
  | .method base name args => (Expr.script_obeys base).bind fun _ hbase =>
      (Expr.listScript_obeys args).bind fun _ hargs =>
        (Value.invoke_spares hbase name hargs).obeys
  | .call name args => Obeys.bind (.take (.require name) trivial fun _ _ => trivial) fun _ _ =>
      (Expr.listScript_obeys args).bind fun values hargs =>
        .take (.call name values) hargs fun _ hvalue => hvalue
  | .binary operator left right => (Expr.script_obeys left).bind fun _ hleft =>
      (Expr.script_obeys right).bind fun _ hright => (operator.apply_spares hleft hright).obeys
  | .not operand => (Expr.script_obeys operand).bind fun _ _ => rfl

/-- The script of a list of expressions obeys the policy. -/
theorem Expr.listScript_obeys : ∀ exprs : List Expr,
    (Expr.listScript exprs).Obeys withoutObjects fun values =>
      ∀ value ∈ values, value.hasObject = false
  | [] => List.forall_mem_nil _
  | expr :: exprs => (Expr.script_obeys expr).bind fun _ hvalue =>
      (Expr.listScript_obeys exprs).bind fun _ hvalues => List.forall_mem_cons.2 ⟨hvalue, hvalues⟩

end

mutual

/-- The script of a statement obeys the policy, by recursion over the statement. -/
theorem Statement.script_obeys : ∀ statement : Statement,
    statement.script.Obeys withoutObjects fun _ => True
  | .assign name value => value.script_obeys.bind fun result hresult =>
      .take (.assign name result) hresult fun _ _ => trivial
  | .call name args => (Expr.script_obeys (.call name args)).bind fun _ _ => trivial
  | .method base name args => (Expr.script_obeys (.method base name args)).bind fun _ _ => trivial
  | .branch test consequent alternative => by
      refine test.script_obeys.bind fun value _ => ?_
      cases value.isTruthy with
      | true => exact Statement.listScript_obeys consequent
      | false => exact Statement.listScript_obeys alternative
  | .forEach binding iterable body => by
      refine iterable.script_obeys.bind fun value hvalue =>
        .forEachItem trivial fun items hitems item hitem => ?_
      subst hitems
      have hclean := Value.hasObject_array_eq_false_iff.1 hvalue item hitem
      exact Obeys.bind (.take (.assign binding item) hclean fun _ _ => trivial) fun _ _ =>
        Statement.listScript_obeys body

/-- The script of a block obeys the policy. -/
theorem Statement.listScript_obeys : ∀ statements : List Statement,
    (Statement.listScript statements).Obeys withoutObjects fun _ => True
  | [] => trivial
  | statement :: statements =>
      Obeys.bind (.take (.report statement.tag) trivial fun _ _ => trivial) fun _ _ =>
        (Statement.script_obeys statement).bind fun _ _ => Statement.listScript_obeys statements

end

/-! ## Hosts and machines without objects -/

/-- A host whose functions give no objects, whatever they are called with. -/
def HostTable.GivesNoObjects (table : HostTable σ) : Prop :=
  ∀ name function, table.get? name = some function → ∀ args context value,
    (function.body args context).1 = .ok value → value.hasObject = false

/-- A value that is answered is one that the function gave. -/
theorem HostFunction.body_of_answer {function : HostFunction σ} {name : String}
    {args : List Value} {context : σ} {value : Value}
    (h : (function.answer name args context).1 = .ok value) :
    (function.body args context).1 = .ok value := by
  by_cases haccepts : function.Accepts args
  · rwa [answer_of_accepts haccepts] at h
  · obtain ⟨arity, -, hanswer⟩ := answer_of_not_accepts haccepts
    rw [hanswer] at h
    cases h

/-- A host gives no objects either when its calls are written down. -/
theorem HostTable.GivesNoObjects.recorded {table : HostTable σ} (h : table.GivesNoObjects) :
    table.recorded.GivesNoObjects := by
  intro name function hfunction args state value hvalue
  rw [HostTable.get?_recorded] at hfunction
  obtain ⟨original, horiginal, rfl⟩ := Option.map_eq_some_iff.1 hfunction
  exact h name original horiginal args state.1 value (HostFunction.body_of_answer hvalue)

namespace Machine

/-- A machine without objects in its variables. -/
def HoldsNoObjects (machine : Machine σ) : Prop :=
  ∀ name value, machine.registry.get? name = some value → value.hasObject = false

/-- An assignment of a value without objects brings none into the variables. -/
theorem HoldsNoObjects.assign {machine : Machine σ} (h : machine.HoldsNoObjects) {value : Value}
    (hvalue : value.hasObject = false) (name : String) :
    HoldsNoObjects { machine with registry := machine.registry.insert name value } := by
  intro other found hfound
  rw [Dictionary.get?_insert] at hfound
  split at hfound
  · cases hfound
    exact hvalue
  · exact h other found hfound

/-- A step that brings no object keeps a machine without objects, and a property of its context
that each call without objects keeps. -/
theorem maintains_withoutObjects {table : HostTable σ} (htable : table.GivesNoObjects)
    {J : σ → Prop}
    (hJ : ∀ {name function args context}, table.get? name = some function →
      (∀ arg ∈ args, arg.hasObject = false) → J context →
        J (function.answer name args context).2) :
    withoutObjects.Maintains table (fun error => error.namesObject = false)
      (fun machine => machine.HoldsNoObjects ∧ J machine.context) := by
  intro α step machine hstep hI
  cases step with
  | raise error => exact ⟨hstep, hI⟩
  | report tag => exact ⟨trivial, hI⟩
  | lookup name =>
      show Yields _ _ _ ((lookup name).run machine)
      rw [run_lookup]
      cases hget : machine.registry.get? name with
      | none => exact ⟨rfl, hI⟩
      | some value => exact ⟨hI.1 name value hget, hI⟩
  | assign name value => exact ⟨trivial, hI.1.assign hstep name, hI.2⟩
  | require name =>
      show Yields _ _ _ ((requireFunction table name).run machine)
      unfold requireFunction
      split
      · exact ⟨trivial, hI⟩
      · exact ⟨rfl, hI⟩
  | call name args =>
      show Yields _ _ _ ((callHost table name args).run machine)
      cases hget : table.get? name with
      | none =>
          rw [run_callHost_of_none hget]
          exact ⟨rfl, hI⟩
      | some function =>
          have hkept := hJ hget hstep hI.2
          rw [run_callHost hget]
          rcases hanswer : function.answer name args machine.context with ⟨error | value, context⟩
          · rw [hanswer] at hkept
            exact ⟨rfl, hI.1, hkept⟩
          · have hbody := HostFunction.body_of_answer (congrArg Prod.fst hanswer)
            rw [hanswer] at hkept
            exact ⟨htable name function hget args machine.context value hbody, hI.1, hkept⟩

/-! ## Runs -/

/-- No argument of a call holds an object. -/
theorem invocations_without_objects {table : HostTable σ} (htable : table.GivesNoObjects)
    (program : Program) {machine : Machine σ} (hmachine : machine.HoldsNoObjects) :
    ∀ invocation ∈ invocations table program machine, ∀ arg ∈ invocation.args,
      arg.hasObject = false := by
  -- The record of the calls is part of the context of the host that writes them down.
  have hsteps := maintains_withoutObjects htable.recorded
    (J := fun state => ∀ invocation ∈ state.2, ∀ arg ∈ invocation.args, arg.hasObject = false)
    fun {name function args context} hfunction hargs hJ => by
      rw [HostTable.get?_recorded] at hfunction
      obtain ⟨original, -, rfl⟩ := Option.map_eq_some_iff.1 hfunction
      rw [HostFunction.answer_recorded]
      exact List.forall_mem_append.2 ⟨hJ, List.forall_mem_singleton.2 hargs⟩
  have hyields := (Statement.listScript_obeys program.statements).perform hsteps
    (machine.recorded []) ⟨hmachine, List.forall_mem_nil _⟩
  have hrun := Script.perform_script table.recorded program (machine.recorded [])
  rw [Program.script] at hrun
  rw [hrun] at hyields
  exact hyields.kept.2

/-- If the functions of a host give no objects and no variable holds one at the start, then no
variable holds one at any point of the run, also of one that fails, nor does an argument of a call.
So the run does not fail because a value is an object. -/
theorem run_without_objects {table : HostTable σ} (htable : table.GivesNoObjects)
    (program : Program) {machine : Machine σ} (hmachine : machine.HoldsNoObjects) :
    (∀ point ∈ history table program machine, point.HoldsNoObjects) ∧
    (run table program machine).2.HoldsNoObjects ∧
    (∀ invocation ∈ invocations table program machine, ∀ arg ∈ invocation.args,
      arg.hasObject = false) ∧
    (∀ name, (run table program machine).1 ≠ .error (.unknownMethod .object name)) ∧
    (∀ operator left right,
      (run table program machine).1 = .error (.typeMismatch operator left right) →
        left ≠ .object ∧ right ≠ .object) := by
  have hscript : program.script.Obeys withoutObjects fun _ => True :=
    Statement.listScript_obeys program.statements
  have hsteps := maintains_withoutObjects htable (J := fun _ => True) fun _ _ _ => trivial
  have hhistory : ∀ point ∈ history table program machine, point.HoldsNoObjects :=
    List.forall_mem_cons.2 ⟨hmachine, fun point hpoint =>
      (hscript.points hsteps machine ⟨hmachine, trivial⟩ point hpoint).1⟩
  have hlast := (history_of_run table program machine).2.2
  have hyields := hscript.perform hsteps machine ⟨hmachine, trivial⟩
  rw [Script.perform_script] at hyields
  refine ⟨hhistory, hhistory _ (List.mem_of_mem_getLast? hlast), ?_, ?_, ?_⟩
  · exact invocations_without_objects htable program hmachine
  · intro name hresult
    exact absurd (hyields.failed hresult) (by simp [RunError.namesObject])
  · intro operator left right hresult
    have hnames := hyields.failed hresult
    simpa [RunError.namesObject] using hnames

/-- A function that keeps its arguments in an object, and gives no object. -/
def remember : HostFunction Context where
  arity := none
  body args context :=
    (.ok (.array [.boolean args.isEmpty]), context.insert "seen" (.object [("args", .array args)]))

/-- A program that asks for the keys of what a function gave. -/
def prying : Program :=
  ⟨[.assign "x" (.method (.call "remember" [.string "a"]) "first" []),
    .call "remember" [.array [.var "x"]], .method (.var "x") "keys" []]⟩

/-- The context holds an object in the end, but the program fails without having met it. -/
theorem run_without_objects_prying :
    let table : HostTable Context := .ofList [("remember", remember)]
    table.GivesNoObjects ∧ (start ∅ : Machine Context).HoldsNoObjects ∧
    (run table prying (.start ∅)).2.context.get? "seen" =
      some (.object [("args", .array [.array [.boolean false]])]) ∧
    (run table prying (.start ∅)).1 = .error (.unknownMethod .boolean "keys") ∧
    (run table prying (.start ∅)).1 ≠ .error (.unknownMethod .object "keys") ∧
    (run table prying (.start ∅)).2.HoldsNoObjects ∧
    (∀ point ∈ history table prying (.start ∅), point.HoldsNoObjects) ∧
    (history table prying (.start ∅)).length = 12 := by
  intro table
  have htable : table.GivesNoObjects := by
    intro name function hfunction args context value hvalue
    rw [Dictionary.get?_single] at hfunction
    split at hfunction
    · cases hfunction
      cases hvalue
      rfl
    · cases hfunction
  have hmachine : (start ∅ : Machine Context).HoldsNoObjects := nofun
  obtain ⟨hhistory, hafter, -, hmethod, -⟩ := run_without_objects htable prying hmachine
  exact ⟨htable, hmachine, rfl, rfl, hmethod "keys", hafter, hhistory, rfl⟩

end Machine

end HostScript
