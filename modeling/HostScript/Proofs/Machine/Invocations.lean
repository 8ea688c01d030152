import HostScript.Proofs.Dictionary
import HostScript.Proofs.Machine.Contexts

/-!
# The calls of a run

The calls that a program makes are seen by its host, so a host that also writes them down, and
otherwise answers as before, tells what they are: `invocations`. A call that fails is the last one,
and its error is the result of the run. The host calls among the events of a run are its calls, in
order. Read `run_invocations` first.
-/

namespace HostScript

variable {σ : Type}

/-- A call of a function, with the context before and after it and with what it gave. -/
structure Invocation (σ : Type) where
  function : String
  args : List Value
  before : σ
  outcome : Except HostError Value
  after : σ

/-- How a call is reported. -/
def Invocation.event (invocation : Invocation σ) : Event :=
  .hostCall invocation.function invocation.args.length

/-- Whether an event reports a call. -/
def Event.isHostCall : Event → Bool
  | .hostCall _ _ => true
  | _ => false

/-! ## Recording -/

/-- A function that answers as before and writes its call down beside the context. -/
def HostFunction.recorded (name : String) (function : HostFunction σ) :
    HostFunction (σ × List (Invocation σ)) where
  arity := none
  body args state :=
    let answer := function.answer name args state.1
    (answer.1, answer.2, state.2 ++ [⟨name, args, state.1, answer.1, answer.2⟩])

/-- A recorded function answers as before and writes its call down. -/
theorem HostFunction.answer_recorded (name : String) (function : HostFunction σ)
    (args : List Value) (state : σ × List (Invocation σ)) :
    (function.recorded name).answer name args state =
      ((function.answer name args state.1).1, (function.answer name args state.1).2,
        state.2 ++ [⟨name, args, state.1, (function.answer name args state.1).1,
          (function.answer name args state.1).2⟩]) := rfl

/-- A host that answers as before and writes all calls down. -/
def HostTable.recorded (table : HostTable σ) : HostTable (σ × List (Invocation σ)) :=
  table.mapValues HostFunction.recorded

/-- A recorded table has the recorded functions under their names. -/
theorem HostTable.get?_recorded (table : HostTable σ) (name : String) :
    table.recorded.get? name = (table.get? name).map (HostFunction.recorded name) :=
  Dictionary.get?_mapValues HostFunction.recorded table name

namespace Machine

/-- A machine for a host that writes its calls down, with the calls so far. -/
def recorded (machine : Machine σ) (log : List (Invocation σ)) :
    Machine (σ × List (Invocation σ)) :=
  ⟨machine.registry, (machine.context, log), machine.events⟩

/-- The calls of a run, in order. -/
def invocations (table : HostTable σ) (program : Program) (machine : Machine σ) :
    List (Invocation σ) :=
  (run table.recorded program (machine.recorded [])).2.context.2

/-- A run does not notice that its calls are written down. -/
theorem run_recorded (table : HostTable σ) (program : Program) (machine : Machine σ) :
    run table.recorded program (machine.recorded []) =
      ((run table program machine).1,
        (run table program machine).2.recorded (invocations table program machine)) := by
  have halike (name : String) (_ : .calls name ∈ program.mentions) :
      Option.Rel (HostFunction.AnswersAlike (fun state context => state.1 = context) name)
        (table.recorded.get? name) (table.get? name) := by
    rw [HostTable.get?_recorded]
    cases table.get? name with
    | none => exact .none
    | some function => exact .some fun args state context hcontext => hcontext ▸ ⟨rfl, rfl⟩
  obtain ⟨hresult, hregistry, hcontext, hevents⟩ := run_of_answersAlike halike
    (show Related _ (machine.recorded []) machine from ⟨rfl, rfl, rfl⟩)
  refine Prod.ext hresult ?_
  show _ = (⟨(run table program machine).2.registry, ((run table program machine).2.context, _),
    (run table program machine).2.events⟩ : Machine (σ × List (Invocation σ)))
  rw [← hregistry, ← hcontext, ← hevents]
  rfl

end Machine

/-- Calls that a host answers one after another, from a context to the one that they leave. -/
inductive HostTable.Answers (table : HostTable σ) (context : σ) : List (Invocation σ) → σ → Prop
  | none : Answers table context [] context
  | call {invocations : List (Invocation σ)} (invocation : Invocation σ) :
    Answers table context invocations invocation.before →
    table.call? invocation.function invocation.args invocation.before =
      some (invocation.outcome, invocation.after) →
    Answers table context (invocations ++ [invocation]) invocation.after

/-- A call with a number of arguments that is not the declared one gives an error, and leaves the
context as it was. -/
theorem HostTable.Answers.refused {table : HostTable σ} {context after : σ}
    {invocations : List (Invocation σ)} (h : table.Answers context invocations after)
    {invocation : Invocation σ} (hmem : invocation ∈ invocations) {function : HostFunction σ}
    (hfunction : table.get? invocation.function = some function)
    (hrefused : ¬ function.Accepts invocation.args) :
    (∃ arity ∈ function.arity, invocation.outcome =
      .error (.arity invocation.function arity invocation.args.length)) ∧
    invocation.after = invocation.before := by
  induction h with
  | none => cases hmem
  | call last _ hcall ih =>
      rcases List.mem_append.1 hmem with hearlier | hlast
      · exact ih hearlier
      · rw [← List.mem_singleton.1 hlast, HostTable.call?_eq, hfunction, Option.map_some] at hcall
        obtain ⟨arity, harity, hanswer⟩ := HostFunction.answer_of_not_accepts hrefused
        rw [hanswer] at hcall
        obtain ⟨houtcome, hafter⟩ := Prod.mk.inj (Option.some.inj hcall)
        exact ⟨⟨arity, harity, houtcome.symm⟩, hafter.symm⟩

namespace Machine

/-! ## The record of a run -/

/-- Calls that all gave a value. -/
def AllDone (log : List (Invocation σ)) : Prop :=
  ∀ invocation ∈ log, ∃ value, invocation.outcome = .ok value

/-- One more call that gave a value leaves all calls done. -/
theorem AllDone.concat {log : List (Invocation σ)} {last : Invocation σ} {value : Value}
    (h : AllDone log) (hlast : last.outcome = .ok value) : AllDone (log ++ [last]) := by
  intro invocation hmem
  rcases List.mem_append.1 hmem with hearlier | hmem
  · exact h invocation hearlier
  · exact ⟨value, List.mem_singleton.1 hmem ▸ hlast⟩

/-- Where all calls are done, none failed. -/
theorem AllDone.outcome_ne {log : List (Invocation σ)} {invocation : Invocation σ}
    (h : AllDone log) (hmem : invocation ∈ log) (error : HostError) :
    invocation.outcome ≠ .error error := by
  obtain ⟨value, hvalue⟩ := h invocation hmem
  rw [hvalue]
  exact nofun

/-- The calls of a run that ended with an error: an error of the host is that of the last call. -/
def EndsWith (log : List (Invocation σ)) : RunError → Prop
  | .host error => ∃ earlier last, log = earlier ++ [last] ∧ AllDone earlier ∧
    last.outcome = .error error
  | _ => AllDone log

/-- A call that failed was the last one, and it failed with the error of the run. -/
theorem EndsWith.of_failed {log : List (Invocation σ)} {runError : RunError}
    (h : EndsWith log runError) {earlier later : List (Invocation σ)} {failed : Invocation σ}
    {error : HostError} (hlog : log = earlier ++ failed :: later)
    (hfailed : failed.outcome = .error error) :
    later = [] ∧ AllDone earlier ∧ runError = .host error := by
  have hmem : failed ∈ log := hlog ▸ List.mem_append_cons_self
  cases runError with
  | host hostError =>
      obtain ⟨done, last, rfl, hdone, hlast⟩ := h
      -- If anything came after the failed call, it would be one of the calls that are done.
      rcases List.eq_nil_or_concat later with rfl | ⟨others, latest, rfl⟩
      · obtain ⟨rfl, hsame⟩ := List.append_inj' hlog rfl
        cases hsame
        rw [hlast] at hfailed
        cases hfailed
        exact ⟨rfl, hdone, rfl⟩
      · have hsplit : done ++ [last] = (earlier ++ failed :: others) ++ [latest] := by
          simpa using hlog
        obtain ⟨rfl, -⟩ := List.append_inj' hsplit rfl
        exact absurd hfailed (hdone.outcome_ne List.mem_append_cons_self error)
  | _ => exact absurd hfailed (AllDone.outcome_ne h hmem error)

/-- The calls that a machine has written down since the start of a run are the ones that its host
answered and the ones that were reported. -/
structure Recorded (table : HostTable σ) (start : Machine σ)
    (machine : Machine (σ × List (Invocation σ))) : Prop where
  answered : table.Answers start.context machine.context.2 machine.context.1
  events : ∃ reported, machine.events.toList = start.events.toList ++ reported ∧
    reported.filter Event.isHostCall = machine.context.2.map Invocation.event

variable {table : HostTable σ} {start : Machine σ} {machine : Machine (σ × List (Invocation σ))}

/-- A call is written down with what it gives. -/
theorem Recorded.called (h : Recorded table start machine) {name : String} {args : List Value}
    {function : HostFunction (σ × List (Invocation σ))} {outcome : Except HostError Value}
    {state : σ × List (Invocation σ)} (hfunction : table.recorded.get? name = some function)
    (hanswer : function.answer name args machine.context = (outcome, state)) :
    Recorded table start (machine.called name args state) ∧
      ∃ last, last.outcome = outcome ∧ state.2 = machine.context.2 ++ [last] := by
  rw [HostTable.get?_recorded] at hfunction
  obtain ⟨original, horiginal, rfl⟩ := Option.map_eq_some_iff.1 hfunction
  cases hanswer
  obtain ⟨reported, hreported, hcalls⟩ := h.events
  refine ⟨⟨?_, reported ++ [.hostCall name args.length], ?_, ?_⟩, _, rfl, rfl⟩
  · refine HostTable.Answers.call _ h.answered ?_
    rw [HostTable.call?_eq, horiginal]
    rfl
  · show (machine.events.push _).toList = _
    rw [Array.toList_push, hreported, List.append_assoc]
  · rw [List.filter_append, hcalls]
    show _ = (machine.context.2 ++ [_]).map Invocation.event
    rw [List.map_append]
    rfl

/-- Reporting a statement leaves the record of calls right. -/
theorem Recorded.report (h : Recorded table start machine) (tag : String) :
    Recorded table start { machine with events := machine.events.push (.executing tag) } := by
  obtain ⟨reported, hreported, hcalls⟩ := h.events
  refine ⟨h.answered, reported ++ [.executing tag], ?_, ?_⟩
  · rw [Array.toList_push, hreported, List.append_assoc]
  · rw [List.filter_append, hcalls]
    exact List.append_nil _

/-- Each step keeps the record true, and only a call that fails can make a run fail with an error of
the host. -/
theorem invariant_recorded (table : HostTable σ) (start : Machine σ) (allowed : Mention → Prop) :
    Invariant table.recorded allowed
      (fun machine => Recorded table start machine ∧ AllDone machine.context.2)
      (fun error machine => Recorded table start machine ∧ EndsWith machine.context.2 error) where
  raise {error _} hvalues h := by
    refine ⟨h.1, ?_⟩
    cases error with
    | host => cases hvalues
    | _ => exact h.2
  report tag _ h := ⟨h.1.report tag, h.2⟩
  undefined _ _ h := h
  assign _ _ _ h := ⟨⟨h.1.answered, h.1.events⟩, h.2⟩
  unknown _ _ h := h
  answers {_ _ _ _ _ state} _ hfunction hanswer h := by
    obtain ⟨hrecorded, last, hlast, hlog⟩ := h.1.called hfunction hanswer
    refine ⟨hrecorded, ?_⟩
    show AllDone state.2
    rw [hlog]
    exact h.2.concat hlast
  refuses _ hfunction hanswer h := by
    obtain ⟨hrecorded, last, hlast, hlog⟩ := h.1.called hfunction hanswer
    exact ⟨hrecorded, _, last, hlog, h.2, hlast⟩

/-! ## Calls that are refused -/

/-- Functions that answer alike are alike when their calls are written down. -/
theorem answersAlike_recorded {left right : HostTable σ} {name : String}
    (h : Option.Rel (HostFunction.AnswersAlike (· = ·) name) (left.get? name) (right.get? name)) :
    Option.Rel (HostFunction.AnswersAlike (· = ·) name) (left.recorded.get? name)
      (right.recorded.get? name) := by
  rw [HostTable.get?_recorded, HostTable.get?_recorded]
  match left.get? name, right.get? name, h with
  | _, _, .none => exact .none
  | some function, some other, .some halike =>
      refine .some fun args state otherState hstate => ?_
      subst hstate
      have hanswer : function.answer name args state.1 = other.answer name args state.1 :=
        Prod.ext (halike args state.1 state.1 rfl).1 (halike args state.1 state.1 rfl).2
      rw [HostFunction.answer_recorded, HostFunction.answer_recorded, hanswer]
      exact ⟨rfl, rfl⟩

/-- What a function would do with other numbers of arguments than the declared one makes no
difference to a run and to its calls. -/
theorem run_of_related_eq {table other : HostTable σ} (h : HostTable.Related (· = ·) table other)
    (program : Program) (machine : Machine σ) :
    run other program machine = run table program machine ∧
      invocations other program machine = invocations table program machine := by
  obtain ⟨hresult, hafter⟩ := run_of_answersAlike
    (fun name (_ : .calls name ∈ program.mentions) => h.answersAlike name)
    (Related.refl machine)
  obtain ⟨-, hrecorded⟩ := run_of_answersAlike
    (fun name (_ : .calls name ∈ program.mentions) => answersAlike_recorded (h.answersAlike name))
    (Related.refl (machine.recorded []))
  exact ⟨Prod.ext hresult.symm hafter.eq.symm, congrArg Prod.snd hrecorded.context.symm⟩

/-! ## Runs and their calls -/

/-- The record is true at the end of a run, and it ends with a failure if the run ends with an error
of the host. -/
theorem run_ends (table : HostTable σ) (program : Program) (machine : Machine σ) :
    Ends (fun after => Recorded table machine after ∧ AllDone after.context.2)
      (fun error after => Recorded table machine after ∧ EndsWith after.context.2 error)
      ((run table program machine).1,
        (run table program machine).2.recorded (invocations table program machine)) := by
  rw [← run_recorded]
  refine (invariant_recorded table machine (· ∈ program.mentions)).run (fun _ h => h) ⟨?_, ?_⟩
  · exact ⟨.none, [], (List.append_nil _).symm, rfl⟩
  · exact fun _ hmem => absurd hmem List.not_mem_nil

/-- A failed call is the last one, and the run fails with its error. -/
theorem run_of_failed {table : HostTable σ} {program : Program} {machine : Machine σ}
    {earlier later : List (Invocation σ)} {failed : Invocation σ} {error : HostError}
    (h : invocations table program machine = earlier ++ failed :: later)
    (hfailed : failed.outcome = .error error) :
    later = [] ∧ AllDone earlier ∧ (run table program machine).1 = .error (.host error) := by
  have hends := run_ends table program machine
  rcases hresult : (run table program machine).1 with runError | value
  · rw [hresult] at hends
    obtain ⟨hlater, hearlier, rfl⟩ := hends.2.of_failed h hfailed
    exact ⟨hlater, hearlier, rfl⟩
  · rw [hresult] at hends
    have hmem : failed ∈ invocations table program machine := h ▸ List.mem_append_cons_self
    exact absurd hfailed (AllDone.outcome_ne hends.2 hmem error)

/-- A run on a host that writes its calls down is the same run, and the calls are answered by the
host one after another. A call that fails is the last one and its error is the result, and only then
an error of the host is the result. A call with a number of arguments other than the declared one
leaves the context as it was, and the function does not run: what it would do with them makes no
difference. The host calls among the events of the run are its calls in order, whatever the result
is. -/
theorem run_invocations (table : HostTable σ) (program : Program) (machine : Machine σ) :
    run table.recorded program (machine.recorded []) =
      ((run table program machine).1,
        (run table program machine).2.recorded (invocations table program machine)) ∧
    table.Answers machine.context (invocations table program machine)
      (run table program machine).2.context ∧
    (∀ earlier failed later error,
      invocations table program machine = earlier ++ failed :: later →
      failed.outcome = .error error →
        later = [] ∧ AllDone earlier ∧ (run table program machine).1 = .error (.host error)) ∧
    (∀ error, (run table program machine).1 = .error (.host error) →
      ∃ earlier last, invocations table program machine = earlier ++ [last] ∧
        last.outcome = .error error) ∧
    (∀ invocation ∈ invocations table program machine, ∀ function,
      table.get? invocation.function = some function → ¬ function.Accepts invocation.args →
        (∃ arity ∈ function.arity, invocation.outcome =
          .error (.arity invocation.function arity invocation.args.length)) ∧
        invocation.after = invocation.before) ∧
    (∀ other, HostTable.Related (· = ·) table other →
      run other program machine = run table program machine ∧
        invocations other program machine = invocations table program machine) ∧
    ∃ reported, (run table program machine).2.events.toList = machine.events.toList ++ reported ∧
      reported.filter Event.isHostCall =
        (invocations table program machine).map Invocation.event := by
  have hends := run_ends table program machine
  have hrecorded := hends.holds (P := Recorded table machine) (fun _ h => h.1) fun _ _ h => h.1
  refine ⟨run_recorded table program machine, hrecorded.answered, ?_, ?_, ?_, ?_, hrecorded.events⟩
  · intro earlier failed later error h hfailed
    exact run_of_failed h hfailed
  · intro error hresult
    obtain ⟨earlier, last, hlog, -, hlast⟩ := (hends.failed hresult).2
    exact ⟨earlier, last, hlog, hlast⟩
  · intro invocation hmem function hfunction hrefused
    exact hrecorded.answered.refused hmem hfunction hrefused
  · intro other hother
    exact run_of_related_eq hother program machine

/-- A function of one argument that counts its calls. -/
def tick : HostFunction Nat where
  arity := some 1
  body _ count := (.ok .null, count + 1)

/-- A function of one argument that counts its calls, and that would fail with other arguments. -/
def strictTick : HostFunction Nat where
  arity := some 1
  body args count := if args.length = 1 then (.ok .null, count + 1) else (.error ⟨"strict"⟩, 0)

/-- A program with a call among the arguments of a call, which are too many. -/
def nestedCalls : Program :=
  ⟨[.call "tick" [.string "a"], .call "tick" [.call "tick" [.string "b"], .string "c"]]⟩

/-- The inner call is made before the outer one is refused. -/
theorem run_invocations_nestedCalls :
    let table : HostTable Nat := .ofList [("tick", tick)]
    let first : Invocation Nat := ⟨"tick", [.string "a"], 0, .ok .null, 1⟩
    let inner : Invocation Nat := ⟨"tick", [.string "b"], 1, .ok .null, 2⟩
    let outer : Invocation Nat := ⟨"tick", [.null, .string "c"], 2, .error (.arity "tick" 1 2), 2⟩
    invocations table nestedCalls (.start 0) = [first, inner] ++ outer :: [] ∧
    AllDone [first, inner] ∧
    (run table nestedCalls (.start 0)).1 = .error (.host (.arity "tick" 1 2)) ∧
    (∃ earlier last, invocations table nestedCalls (.start 0) = earlier ++ [last] ∧
      last.outcome = .error (.arity "tick" 1 2)) ∧
    outer.after = outer.before ∧
    run (.ofList [("tick", strictTick)]) nestedCalls (.start 0) =
      run table nestedCalls (.start 0) := by
  intro table first inner outer
  obtain ⟨-, -, hfailed, hhost, hrefused, hsame, -⟩ := run_invocations table nestedCalls (.start 0)
  have hcalls : invocations table nestedCalls (.start 0) = [first, inner] ++ outer :: [] := rfl
  have hrelated : HostTable.Related (· = ·) table (.ofList [("tick", strictTick)]) := by
    refine .single "tick" rfl fun args haccepts context otherContext hcontext => ?_
    have hlength : args.length = 1 := (haccepts 1 rfl).symm
    simp [tick, strictTick, hlength, hcontext]
  obtain ⟨-, hdone, hresult⟩ := hfailed _ _ _ _ hcalls rfl
  refine ⟨hcalls, hdone, hresult, hhost _ hresult, ?_, (hsame _ hrelated).1⟩
  exact (hrefused outer (hcalls ▸ List.mem_append_cons_self) tick rfl
    fun haccepts => absurd (haccepts 1 rfl) (by decide)).2

end Machine

end HostScript
