import HostScript.Proofs.Dictionary
import HostScript.Proofs.Machine.Parametric

/-!
# Contexts are opaque

A machine never looks into its context, it only hands it to host functions. So hosts that answer
alike on related contexts run every program alike, whatever their contexts are, and a program that
calls no function has nothing to do with the context. Read `run_of_related` first.
-/

namespace HostScript

variable {σ τ : Type}

namespace Machine

/-- Machines with the same variables and events and with related contexts. -/
structure Related (related : σ → τ → Prop) (left : Machine σ) (right : Machine τ) : Prop where
  registry : left.registry = right.registry
  context : related left.context right.context
  events : left.events = right.events

/-- A machine is related to itself by equality. -/
theorem Related.refl (machine : Machine σ) : Related (· = ·) machine machine :=
  ⟨rfl, rfl, rfl⟩

/-- Machines whose contexts are the same are the same. -/
theorem Related.eq {left right : Machine σ} (h : Related (· = ·) left right) : left = right := by
  cases left
  cases right
  rw [mk.injEq]
  exact ⟨h.registry, h.context, h.events⟩

/-- On related machines two computations have the same result and leave related machines. -/
def Simulates (related : σ → τ → Prop) {α : Type} (first : Run σ α) (other : Run τ α) : Prop :=
  ∀ left right, Related related left right →
    (first.run left).1 = (other.run right).1 ∧
      Related related (first.run left).2 (other.run right).2

variable {α β : Type} {related : σ → τ → Prop}

/-- Computations that simulate each other do so one after the other. -/
theorem Simulates.bind {first : Run σ α} {other : Run τ α} {next : α → Run σ β}
    {otherNext : α → Run τ β} (h : Simulates related first other)
    (hnext : ∀ value, Simulates related (next value) (otherNext value)) :
    Simulates related (first >>= next) (other >>= otherNext) := by
  intro left right hrelated
  obtain ⟨hresult, hafter⟩ := h left right hrelated
  rw [run_bind, run_bind]
  rcases hleft : first.run left with ⟨result, after⟩
  rcases hright : other.run right with ⟨otherResult, otherAfter⟩
  rw [hleft, hright] at hresult hafter
  obtain rfl : result = otherResult := hresult
  cases result with
  | error error => exact ⟨rfl, hafter⟩
  | ok value => exact hnext value after otherAfter hafter

/-- A call that leaves related contexts leaves related machines. -/
theorem Related.called {left : Machine σ} {right : Machine τ} (h : Related related left right)
    (name : String) (args : List Value) {context : σ} {otherContext : τ}
    (hcontext : related context otherContext) :
    Related related (left.called name args context) (right.called name args otherContext) where
  registry := h.registry
  context := hcontext
  events := congrArg (fun events : Array Event => events.push (.hostCall name args.length)) h.events

end Machine

/-! ## Hosts -/

namespace HostFunction

/-- Functions that, with arguments of the declared number, give the same value or error on related
contexts and leave related contexts. -/
def RunsAlike (related : σ → τ → Prop) (left : HostFunction σ) (right : HostFunction τ) : Prop :=
  ∀ args, left.Accepts args → ∀ context otherContext, related context otherContext →
    (left.body args context).1 = (right.body args otherContext).1 ∧
      related (left.body args context).2 (right.body args otherContext).2

/-- Functions that answer all calls under a name alike, also those that are refused. -/
def AnswersAlike (related : σ → τ → Prop) (name : String) (left : HostFunction σ)
    (right : HostFunction τ) : Prop :=
  ∀ args context otherContext, related context otherContext →
    (left.answer name args context).1 = (right.answer name args otherContext).1 ∧
      related (left.answer name args context).2 (right.answer name args otherContext).2

variable {related : σ → τ → Prop}

/-- Functions with the same declared number of arguments refuse the same calls. -/
theorem RunsAlike.answersAlike {function : HostFunction σ} {other : HostFunction τ}
    (h : RunsAlike related function other) (harity : function.arity = other.arity)
    (name : String) : AnswersAlike related name function other := by
  intro args context otherContext hrelated
  have hsame : function.Accepts args ↔ other.Accepts args := by rw [Accepts, Accepts, harity]
  by_cases haccepts : function.Accepts args
  · rw [answer_of_accepts haccepts, answer_of_accepts (hsame.1 haccepts)]
    exact h args haccepts context otherContext hrelated
  · obtain ⟨arity, hdeclared, hanswer⟩ := answer_of_not_accepts haccepts
    obtain ⟨otherArity, hother, hotherAnswer⟩ := answer_of_not_accepts (mt hsame.2 haccepts)
    have heq : arity = otherArity := Option.mem_unique (harity ▸ hdeclared) hother
    rw [hanswer, hotherAnswer, heq]
    exact ⟨rfl, hrelated⟩

end HostFunction

namespace HostTable

/-- Hosts with functions of the same names and with the same declared numbers of arguments, where
the functions of one name run alike on related contexts. -/
structure Related (related : σ → τ → Prop) (left : HostTable σ) (right : HostTable τ) : Prop where
  arity (name : String) :
    (left.get? name).map HostFunction.arity = (right.get? name).map HostFunction.arity
  body {name : String} {function : HostFunction σ} {other : HostFunction τ} :
    left.get? name = some function → right.get? name = some other → function.RunsAlike related other

variable {related : σ → τ → Prop} {left : HostTable σ} {right : HostTable τ}

/-- Related hosts have functions that answer alike under the same names. -/
theorem Related.answersAlike (h : Related related left right) (name : String) :
    Option.Rel (HostFunction.AnswersAlike related name) (left.get? name) (right.get? name) := by
  have harity := h.arity name
  cases hleft : left.get? name with
  | none =>
      cases hright : right.get? name with
      | none => exact .none
      | some other => simp [hleft, hright] at harity
  | some function =>
      cases hright : right.get? name with
      | none => simp [hleft, hright] at harity
      | some other =>
          rw [hleft, hright, Option.map_some, Option.map_some] at harity
          exact .some ((h.body hleft hright).answersAlike (Option.some.inj harity) name)

/-- Hosts with a single function each. -/
theorem Related.single (name : String) {function : HostFunction σ} {other : HostFunction τ}
    (harity : function.arity = other.arity) (halike : function.RunsAlike related other) :
    Related related (.ofList [(name, function)]) (.ofList [(name, other)]) where
  arity key := by
    rw [Dictionary.get?_single, Dictionary.get?_single]
    split
    · exact congrArg some harity
    · rfl
  body {key first second} hfirst hsecond := by
    rw [Dictionary.get?_single] at hfirst hsecond
    by_cases hkey : key = name
    · rw [if_pos hkey] at hfirst hsecond
      cases hfirst
      cases hsecond
      exact halike
    · rw [if_neg hkey] at hfirst
      cases hfirst

end HostTable

variable {related : σ → τ → Prop} {left : HostTable σ} {right : HostTable τ}

/-! ## Runs -/

namespace Machine

/-- What a program does keeps machines related, if the hosts answer alike under the names that it
calls. -/
theorem parametric_simulates {allowed : Mention → Prop}
    (h : ∀ name, allowed (.calls name) →
      Option.Rel (HostFunction.AnswersAlike related name) (left.get? name) (right.get? name)) :
    Parametric left right allowed (Simulates related) where
  pure _ _ _ hrelated := ⟨rfl, hrelated⟩
  bind := .bind
  raise _ _ _ hrelated := ⟨rfl, hrelated⟩
  report tag _ _ hrelated := ⟨rfl, hrelated.registry, hrelated.context,
    congrArg (·.push (.executing tag)) hrelated.events⟩
  lookup {name} _ first other hrelated := by
    rw [run_lookup, run_lookup, hrelated.registry]
    cases other.registry.get? name with
    | none => exact ⟨rfl, hrelated⟩
    | some value => exact ⟨rfl, hrelated⟩
  assign {name} value _ _ _ hrelated := ⟨rfl, congrArg (·.insert name value) hrelated.registry,
    hrelated.context, hrelated.events⟩
  contains {name} hname := by
    unfold Dictionary.contains
    exact match left.get? name, right.get? name, h name hname with
      | _, _, .none => rfl
      | _, _, .some _ => rfl
  unknown _ _ _ _ hrelated := ⟨rfl, hrelated⟩
  callHost {name} args hname hthere first other hrelated := by
    obtain ⟨function, hfunction⟩ := Option.isSome_iff_exists.1 hthere
    have hanswers := h name hname
    rw [hfunction] at hanswers
    cases hother : right.get? name with
    | none =>
        rw [hother] at hanswers
        cases hanswers
    | some otherFunction =>
        rw [hother] at hanswers
        cases hanswers with
        | some halike =>
            rw [run_callHost hfunction, run_callHost hother]
            obtain ⟨hresult, hcontext⟩ :=
              halike args first.context other.context hrelated.context
            exact ⟨congrArg (Except.mapError RunError.host) hresult,
              hrelated.called name args hcontext⟩

/-- Hosts that answer alike under the names that a program calls run it alike. -/
theorem run_of_answersAlike {program : Program}
    (h : ∀ name, .calls name ∈ program.mentions →
      Option.Rel (HostFunction.AnswersAlike related name) (left.get? name) (right.get? name))
    {machine : Machine σ} {other : Machine τ} (hrelated : machine.Related related other) :
    (run left program machine).1 = (run right program other).1 ∧
      (run left program machine).2.Related related (run right program other).2 :=
  (parametric_simulates h).executeAll program.statements (fun _ hmention => hmention) machine other
    hrelated

/-- Hosts whose functions of one name answer alike on related contexts run every program alike: with
the same result, the same variables and events, and related contexts, also when the run fails. A
program that calls no function runs alike on all hosts and contexts, and leaves the context as it
is. -/
theorem run_of_related (related : σ → τ → Prop) (program : Program) :
    (∀ (left : HostTable σ) (right : HostTable τ), HostTable.Related related left right →
      ∀ (machine : Machine σ) (other : Machine τ), machine.Related related other →
        (run left program machine).1 = (run right program other).1 ∧
          (run left program machine).2.Related related (run right program other).2) ∧
    ((∀ name, .calls name ∉ program.mentions) →
      ∀ (left : HostTable σ) (right : HostTable τ) (machine : Machine σ) (other : Machine τ),
        machine.registry = other.registry → machine.events = other.events →
          (run left program machine).1 = (run right program other).1 ∧
          (run left program machine).2.registry = (run right program other).2.registry ∧
          (run left program machine).2.events = (run right program other).2.events ∧
          (run left program machine).2.context = machine.context ∧
          (run right program other).2.context = other.context) := by
  refine ⟨fun left right h machine other hrelated =>
    run_of_answersAlike (fun name _ => h.answersAlike name) hrelated, ?_⟩
  intro hnone left right machine other hregistry hevents
  -- No host is ever asked, so the relation that pins both contexts down survives.
  have halike (name : String) (hname : .calls name ∈ program.mentions) :
      Option.Rel (HostFunction.AnswersAlike (fun context otherContext =>
        context = machine.context ∧ otherContext = other.context) name)
        (left.get? name) (right.get? name) :=
    absurd hname (hnone name)
  obtain ⟨hresult, hregistry, ⟨hcontext, hother⟩, hevents⟩ :=
    run_of_answersAlike halike ⟨hregistry, ⟨rfl, rfl⟩, hevents⟩
  exact ⟨hresult, hregistry, hevents, hcontext, hother⟩

/-- A function that keeps its arguments while there is room for them. -/
def keepNote : HostFunction (List Value) where
  arity := some 1
  body args kept :=
    if kept.length < 2 then (.ok .null, kept ++ args) else (.error ⟨"full"⟩, kept.take 1)

/-- A function that only counts its arguments. -/
def countNote : HostFunction Nat where
  arity := some 1
  body args count := if count < 2 then (.ok .null, count + args.length) else (.error ⟨"full"⟩, 1)

/-- A program that notes more than there is room for. -/
def notes : Program :=
  ⟨[.forEach "item" (.array [.string "a", .string "b", .string "c"]) [.call "note" [.var "item"]]]⟩

/-- A program cannot tell whether its host keeps what it notes or only counts it, up to the failure
that ends it. -/
theorem run_of_related_notes :
    (run (.ofList [("note", keepNote)]) notes (.start [])).1 = .error (.host ⟨"full"⟩) ∧
    (run (.ofList [("note", keepNote)]) notes (.start [])).1 =
      (run (.ofList [("note", countNote)]) notes (.start 0)).1 ∧
    (run (.ofList [("note", keepNote)]) notes (.start [])).2.Related
      (fun kept count => kept.length = count)
      (run (.ofList [("note", countNote)]) notes (.start 0)).2 ∧
    (run (.ofList [("note", countNote)]) ⟨[.assign "x" (.var "y")]⟩ (.start 7)).2.context = 7 := by
  have htables : HostTable.Related (fun kept count => kept.length = count)
      (.ofList [("note", keepNote)]) (.ofList [("note", countNote)]) := by
    refine .single "note" rfl fun args _ kept count hrelated => ?_
    subst hrelated
    by_cases hroom : kept.length < 2
    · have hkeep : keepNote.body args kept = (.ok .null, kept ++ args) := if_pos hroom
      have hcount : countNote.body args kept.length = (.ok .null, kept.length + args.length) :=
        if_pos hroom
      rw [hkeep, hcount]
      exact ⟨rfl, List.length_append⟩
    · have hkeep : keepNote.body args kept = (.error ⟨"full"⟩, kept.take 1) := if_neg hroom
      have hcount : countNote.body args kept.length = (.error ⟨"full"⟩, 1) := if_neg hroom
      rw [hkeep, hcount]
      exact ⟨rfl, List.length_take_of_le (by omega)⟩
  refine ⟨rfl, ?_, ?_, ?_⟩
  · exact ((run_of_related _ notes).1 _ _ htables (.start []) (.start 0) ⟨rfl, rfl, rfl⟩).1
  · exact ((run_of_related _ notes).1 _ _ htables (.start []) (.start 0) ⟨rfl, rfl, rfl⟩).2
  · exact ((run_of_related (fun _ _ => True) ⟨[.assign "x" (.var "y")]⟩).2
      (by simp [Program.mentions, Statement.listMentions, Statement.mentions, Expr.mentions])
      (.ofList [("note", countNote)]) (.ofList [("note", keepNote)]) (.start 7) (.start [])
      rfl rfl).2.2.2.1

end Machine

end HostScript
