import HostScript.Machine.Basic

/-!
# The steps of a machine

What the single steps of a run do with the machine. A call is split here into what decides about it
before the arguments are evaluated (`evaluate_call_of_contains`,
`evaluate_call_of_not_contains`) and what the function answers (`run_callHost`), so that nothing
later has to open these definitions.
-/

namespace HostScript

variable {σ α β : Type}

/-! ## Calls -/

namespace HostFunction

/-- What a function answers under a name: the declared number of arguments is checked first. -/
def answer (function : HostFunction σ) (name : String) (args : List Value) (context : σ) :
    Except HostError Value × σ :=
  match function.arity with
  | some arity =>
    if arity = args.length then function.body args context
    else (.error (.arity name arity args.length), context)
  | none => function.body args context

/-- Arguments of the declared number, if one is declared. -/
def Accepts (function : HostFunction σ) (args : List Value) : Prop :=
  ∀ arity ∈ function.arity, arity = args.length

/-- With arguments of the declared number, a function answers what its body does. -/
theorem answer_of_accepts {function : HostFunction σ} {args : List Value}
    (h : function.Accepts args) (name : String) (context : σ) :
    function.answer name args context = function.body args context := by
  unfold answer
  cases harity : function.arity with
  | none => rfl
  | some arity => exact if_pos (h arity harity)

/-- A function does not run with another number of arguments. -/
theorem answer_of_not_accepts {function : HostFunction σ} {args : List Value}
    (h : ¬ function.Accepts args) : ∃ arity ∈ function.arity, ∀ name context,
      function.answer name args context = (.error (.arity name arity args.length), context) := by
  obtain ⟨arity, hrefused⟩ := Classical.not_forall.1 h
  obtain ⟨harity, hne⟩ := Classical.not_imp.1 hrefused
  refine ⟨arity, harity, fun name context => ?_⟩
  unfold answer
  rw [Option.mem_def.1 harity]
  exact if_neg hne

end HostFunction

/-- A call is answered by the function of the name. -/
theorem HostTable.call?_eq (table : HostTable σ) (name : String) (args : List Value)
    (context : σ) :
    table.call? name args context =
      (table.get? name).map fun function => function.answer name args context := by
  unfold call?
  cases table.get? name with
  | none => rfl
  | some function =>
      show (match function.arity with
        | some arity =>
          if arity = args.length then some (function.body args context)
          else some (.error (.arity name arity args.length), context)
        | none => some (function.body args context)) = some (function.answer name args context)
      unfold HostFunction.answer
      cases function.arity with
      | none => rfl
      | some arity =>
          dsimp only
          split
          · rfl
          · rfl

/-! ## Steps -/

namespace Machine

/-- A lifted value is the value. -/
theorem lift_ok (value : α) : (lift (.ok value) : Run σ α) = pure value := rfl

/-- A sequence goes on from the machine that its first part leaves, unless that part fails. -/
theorem run_bind (first : Run σ α) (next : α → Run σ β) (machine : Machine σ) :
    (first >>= next).run machine =
      match first.run machine with
      | (.ok value, after) => (next value).run after
      | (.error error, after) => (.error error, after) := by
  show (ExceptT.bindCont next (first.run machine).1) (first.run machine).2 = _
  rcases first.run machine with ⟨_ | _, _⟩
  · rfl
  · rfl

/-- Asking for the machine changes nothing. -/
theorem run_get (machine : Machine σ) :
    (get : Run σ (Machine σ)).run machine = (.ok machine, machine) := rfl

/-- Reporting appends the event. -/
theorem run_report (event : Event) (machine : Machine σ) :
    (report event).run machine =
      (.ok (), { machine with events := machine.events.push event }) := rfl

/-- A variable is looked up in the registry. -/
theorem run_lookup (name : String) (machine : Machine σ) :
    (lookup name).run machine =
      match machine.registry.get? name with
      | some value => (.ok value, machine)
      | none => (.error (.undefinedVariable name), machine) := by
  show (match machine.registry.get? name with
    | some value => pure value
    | none => throw (.undefinedVariable name) : Run σ Value).run machine = _
  cases machine.registry.get? name with
  | none => rfl
  | some value => rfl

/-- The machine after a call: the call was reported, and the context is the one that is given. -/
def called (machine : Machine σ) (name : String) (args : List Value) (context : σ) : Machine σ :=
  { machine with context, events := machine.events.push (.hostCall name args.length) }

/-- A call is reported, and then it is as the table answers it. -/
theorem run_callHost_eq (table : HostTable σ) (name : String) (args : List Value)
    (machine : Machine σ) :
    (callHost table name args).run machine =
      match table.call? name args machine.context with
      | some (result, context) => (result.mapError .host, machine.called name args context)
      | none => (.error (.unknownFunction name), machine.called name args machine.context) := by
  unfold callHost
  rw [run_bind, run_report]
  dsimp only
  rw [run_bind, run_get]
  dsimp only
  rcases table.call? name args machine.context with _ | ⟨_ | _, _⟩
  · rfl
  · rfl
  · rfl

/-- A function that is there is called, and its answer is passed on. -/
theorem run_callHost {table : HostTable σ} {name : String} {function : HostFunction σ}
    (h : table.get? name = some function) (args : List Value) (machine : Machine σ) :
    (callHost table name args).run machine =
      ((function.answer name args machine.context).1.mapError .host,
        machine.called name args (function.answer name args machine.context).2) := by
  rw [run_callHost_eq, HostTable.call?_eq, h]
  rfl

/-- A call of a function that is not there fails after it was reported. -/
theorem run_callHost_of_none {table : HostTable σ} {name : String}
    (h : table.get? name = none) (args : List Value) (machine : Machine σ) :
    (callHost table name args).run machine =
      (.error (.unknownFunction name), machine.called name args machine.context) := by
  rw [run_callHost_eq, HostTable.call?_eq, h]
  rfl

/-- A call of a function that is there evaluates its arguments and calls it. -/
theorem evaluate_call_of_contains {table : HostTable σ} {name : String}
    (h : table.contains name = true) (args : List Expr) :
    evaluate table (.call name args) = (do callHost table name (← evaluateAll table args)) := by
  rw [evaluate, requireFunction, if_pos h]
  rfl

/-- A call of a function that is not there fails at once. -/
theorem evaluate_call_of_not_contains {table : HostTable σ} {name : String}
    (h : table.contains name = false) (args : List Expr) :
    evaluate table (.call name args) = throw (.unknownFunction name) := by
  rw [evaluate, requireFunction, if_neg (by simp [h])]
  rfl

/-- Joined statements are executed one part after the other. -/
theorem executeAll_append (table : HostTable σ) (first second : List Statement) :
    executeAll table (first ++ second) =
      (do executeAll table first; executeAll table second) := by
  induction first with
  | nil => simp [executeAll]
  | cons statement first ih => simp [executeAll, ih]

end Machine

end HostScript
