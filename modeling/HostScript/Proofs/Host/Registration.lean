import HostScript.Proofs.Dictionary
import HostScript.Proofs.Machine.Steps
import Mathlib.Data.List.Induction

/-!
# Registering functions

A table is filled by registrations, one after the other, with or without a declared number of
arguments. What a name means afterwards is what its last registration says, the declared number
included (`get?_register_eq_some`): nothing is left of the registrations of that name before it.
Read `register_lastWins` first.
-/

namespace HostScript

variable {σ : Type}

/-- A function that is put under a name, with or without a declared number of arguments. -/
inductive Registration (σ : Type) where
  | plain (name : String) (body : List Value → σ → Except HostError Value × σ)
  | withArity (name : String) (arity : Nat) (body : List Value → σ → Except HostError Value × σ)

namespace Registration

/-- The name that a function is put under. -/
def name : Registration σ → String
  | .plain name _ => name
  | .withArity name _ _ => name

/-- The function of a registration, as a table keeps it. -/
def function : Registration σ → HostFunction σ
  | .plain _ body => ⟨none, body⟩
  | .withArity _ arity body => .withArity arity ⟨none, body⟩

/-- A registration that no later one of the same name follows. -/
def LastIn (registration : Registration σ) (registrations : List (Registration σ)) : Prop :=
  ∃ earlier later, registrations = earlier ++ registration :: later ∧
    ∀ other ∈ later, other.name ≠ registration.name

/-- Without registrations, none is the last one. -/
theorem not_lastIn_nil (registration : Registration σ) : ¬ registration.LastIn [] := by
  rintro ⟨earlier, later, hsplit, -⟩
  exact List.append_ne_nil_of_right_ne_nil earlier (List.cons_ne_nil _ later) hsplit.symm

/-- One more registration is the last of its name, and changes nothing for other names. -/
theorem lastIn_concat {registration : Registration σ} {registrations : List (Registration σ)}
    {newest : Registration σ} :
    registration.LastIn (registrations ++ [newest]) ↔
      registration = newest ∨
        registration.name ≠ newest.name ∧ registration.LastIn registrations := by
  constructor
  · rintro ⟨earlier, later, hsplit, hlater⟩
    induction later using List.reverseRecOn with
    | nil => exact .inl (List.append_singleton_inj.1 hsplit).2.symm
    | append_singleton later other =>
        rw [← List.cons_append, ← List.append_assoc] at hsplit
        obtain ⟨rfl, rfl⟩ := List.append_singleton_inj.1 hsplit
        have hnewest : registration.name ≠ newest.name := (hlater newest List.mem_concat_self).symm
        exact .inr ⟨hnewest, earlier, later, rfl, fun other hother =>
          hlater other (List.mem_append_left _ hother)⟩
  · rintro (rfl | ⟨hname, earlier, later, rfl, hlater⟩)
    · exact ⟨registrations, [], rfl, fun _ hother => absurd hother List.not_mem_nil⟩
    · refine ⟨earlier, later ++ [newest], by simp, fun other hother => ?_⟩
      rcases List.mem_append.1 hother with hother | hother
      · exact hlater other hother
      · exact List.mem_singleton.1 hother ▸ hname.symm

/-- Among the registrations of a name there is a last one. -/
theorem exists_lastIn_iff {registrations : List (Registration σ)} {name : String} :
    (∃ registration : Registration σ, registration.LastIn registrations ∧
      registration.name = name) ↔ ∃ registration ∈ registrations, registration.name = name := by
  constructor
  · rintro ⟨registration, ⟨earlier, later, rfl, -⟩, hname⟩
    exact ⟨registration, List.mem_append_right _ List.mem_cons_self, hname⟩
  · induction registrations using List.reverseRecOn with
    | nil => exact fun ⟨_, hmem, _⟩ => absurd hmem List.not_mem_nil
    | append_singleton registrations newest ih =>
        intro hregistered
        by_cases hnewest : newest.name = name
        · exact ⟨newest, lastIn_concat.2 (.inl rfl), hnewest⟩
        · obtain ⟨registration, hmem, hname⟩ := hregistered
          have holder : registration ∈ registrations := by
            rcases List.mem_append.1 hmem with holder | hsame
            · exact holder
            · exact absurd hname (List.mem_singleton.1 hsame ▸ hnewest)
          obtain ⟨last, hlast, rfl⟩ := ih ⟨registration, holder, hname⟩
          exact ⟨last, lastIn_concat.2 (.inr ⟨fun hsame => hnewest hsame.symm, hlast⟩), rfl⟩

end Registration

namespace HostTable

/-- The table after some registrations, from the empty table on. -/
def register (registrations : List (Registration σ)) : HostTable σ :=
  registrations.foldl
    (fun table registration => table.insert registration.name registration.function) ∅

/-- The newest registration is inserted into what the others made. -/
theorem register_concat (registrations : List (Registration σ)) (newest : Registration σ) :
    register (registrations ++ [newest]) =
      (register registrations).insert newest.name newest.function := by
  unfold register
  rw [List.foldl_append]
  rfl

/-- A table has under a name what was registered last under it. -/
theorem get?_register_eq_some {registrations : List (Registration σ)} {name : String}
    {function : HostFunction σ} :
    (register registrations).get? name = some function ↔
      ∃ registration : Registration σ, registration.LastIn registrations ∧
        registration.name = name ∧ registration.function = function := by
  induction registrations using List.reverseRecOn with
  | nil => exact ⟨nofun, fun ⟨_, hlast, _⟩ => absurd hlast (Registration.not_lastIn_nil _)⟩
  | append_singleton registrations newest ih =>
      simp only [register_concat, Dictionary.get?_insert, Registration.lastIn_concat]
      split
      · rename_i hname
        constructor
        · intro hnewest
          exact ⟨newest, .inl rfl, hname.symm, Option.some.inj hnewest⟩
        · rintro ⟨registration, rfl | ⟨hother, -⟩, hsame, rfl⟩
          · rfl
          · exact absurd (hsame.trans hname) hother
      · rename_i hname
        rw [ih]
        constructor
        · rintro ⟨registration, hlast, rfl, hfunction⟩
          exact ⟨registration, .inr ⟨hname, hlast⟩, rfl, hfunction⟩
        · rintro ⟨registration, rfl | ⟨-, hlast⟩, hsame, hfunction⟩
          · exact absurd hsame.symm hname
          · exact ⟨registration, hlast, hsame, hfunction⟩

/-- A table has exactly the names that were registered. -/
theorem contains_register {registrations : List (Registration σ)} {name : String} :
    (register registrations).contains name = true ↔
      ∃ registration ∈ registrations, registration.name = name := by
  unfold Dictionary.contains
  rw [Option.isSome_iff_exists, ← Registration.exists_lastIn_iff]
  simp only [get?_register_eq_some]
  constructor
  · rintro ⟨function, registration, hlast, hname, -⟩
    exact ⟨registration, hlast, hname⟩
  · rintro ⟨registration, hlast, hname⟩
    exact ⟨registration.function, registration, hlast, hname, rfl⟩

/-- A call is answered by the function that was registered last under its name. -/
theorem call?_register {registrations : List (Registration σ)} {registration : Registration σ}
    (h : registration.LastIn registrations) (args : List Value) (context : σ) :
    (register registrations).call? registration.name args context =
      some (registration.function.answer registration.name args context) := by
  rw [call?_eq, get?_register_eq_some.2 ⟨registration, h, rfl, rfl⟩, Option.map_some]

/-- A call has no answer exactly if its name was never registered. -/
theorem call?_register_eq_none {registrations : List (Registration σ)} {name : String}
    {args : List Value} {context : σ} :
    (register registrations).call? name args context = none ↔
      ∀ registration ∈ registrations, registration.name ≠ name := by
  have hnone : (register registrations).call? name args context = none ↔
      ¬ (register registrations).contains name = true := by
    rw [call?_eq, Option.map_eq_none_iff, Dictionary.contains, Option.not_isSome_iff_eq_none]
  rw [hnone, contains_register]
  exact ⟨fun h registration hmem hname => h ⟨registration, hmem, hname⟩,
    fun h ⟨registration, hmem, hname⟩ => h registration hmem hname⟩

/-- Tables are equal when the last registrations are, whatever was registered before them. -/
theorem register_congr {registrations others : List (Registration σ)}
    (h : ∀ registration : Registration σ,
      registration.LastIn registrations ↔ registration.LastIn others) :
    register registrations = register others := by
  refine Dictionary.ext_get? fun name => Option.ext fun function => ?_
  simp only [get?_register_eq_some, h]

/-- A table is told by the last registration of each name. Its names are listed in increasing order
and counted. A call under a name that was never registered has no answer and leaves no context; with
a number of arguments other than the declared one it is refused in the context it was made in,
whatever the function is; and otherwise it is what the function registered last does with exactly
the arguments and the context of the call. -/
theorem register_lastWins (registrations : List (Registration σ)) (name : String)
    (args : List Value) (context : σ) :
    (register registrations).keys.Pairwise (· < ·) ∧
    (name ∈ (register registrations).keys ↔
      ∃ registration ∈ registrations, registration.name = name) ∧
    (register registrations).size = (register registrations).keys.length ∧
    ((register registrations).contains name = true ↔
      ∃ registration ∈ registrations, registration.name = name) ∧
    ((register registrations).call? name args context = none ↔
      ∀ registration ∈ registrations, registration.name ≠ name) ∧
    (∀ arity body, (Registration.withArity name arity body).LastIn registrations →
      arity ≠ args.length →
      (register registrations).call? name args context =
        some (.error (.arity name arity args.length), context)) ∧
    (∀ body, (Registration.withArity name args.length body).LastIn registrations →
      (register registrations).call? name args context = some (body args context)) ∧
    (∀ body, (Registration.plain name body).LastIn registrations →
      (register registrations).call? name args context = some (body args context)) ∧
    ∀ others : List (Registration σ),
      (∀ registration : Registration σ,
        registration.LastIn others ↔ registration.LastIn registrations) →
      register others = register registrations := by
  refine ⟨Dictionary.keys_increasing _,
    Dictionary.contains_iff_mem_keys.symm.trans contains_register, (List.length_map _).symm,
    contains_register, call?_register_eq_none, ?_, ?_, ?_, fun _ h => register_congr h⟩
  · intro arity body hlast hrefused
    exact (call?_register hlast args context).trans (congrArg some (if_neg hrefused))
  · intro body hlast
    exact (call?_register hlast args context).trans (congrArg some (if_pos rfl))
  · intro body hlast
    exact call?_register hlast args context

/-- The name of a call in the context, and the number of its arguments as its value. -/
def tagging (tag : String) (args : List Value) (context : List String) :
    Except HostError Value × List String :=
  (.ok (.number (.ofNat args.length)), context ++ [tag])

/-- Two names that are registered twice each: one loses its declared number of arguments, the other
one gets one. -/
def reregistered : List (Registration (List String)) :=
  [.withArity "g" 1 (tagging "older g"), .plain "f" (tagging "older f"),
    .plain "g" (tagging "newer g"), .withArity "f" 2 (tagging "newer f")]

/-- The older functions never run, and neither does the newer one that is called with one argument
too few. -/
theorem register_lastWins_reregistered :
    (register reregistered).keys = ["f", "g"] ∧
    (register reregistered).call? "h" [.null] ["kept"] = none ∧
    (register reregistered).call? "f" [.null] ["kept"] =
      some (.error (.arity "f" 2 1), ["kept"]) ∧
    (register reregistered).call? "f" [.null, .null] ["kept"] =
      some (.ok (.number (.ofNat 2)), ["kept", "newer f"]) ∧
    (register reregistered).call? "g" [] ["kept"] =
      some (.ok (.number (.ofNat 0)), ["kept", "newer g"]) := by
  have hf : (Registration.withArity "f" 2 (tagging "newer f")).LastIn reregistered :=
    ⟨reregistered.dropLast, [], rfl, fun _ hother => absurd hother List.not_mem_nil⟩
  have hg : (Registration.plain "g" (tagging "newer g")).LastIn reregistered :=
    ⟨reregistered.take 2, [.withArity "f" 2 (tagging "newer f")], rfl,
      fun other hother => List.mem_singleton.1 hother ▸ by decide⟩
  obtain ⟨-, -, -, -, hnone, -⟩ := register_lastWins reregistered "h" [.null] ["kept"]
  obtain ⟨-, -, -, -, -, hrefused, -⟩ := register_lastWins reregistered "f" [.null] ["kept"]
  obtain ⟨-, -, -, -, -, -, hruns, -⟩ := register_lastWins reregistered "f" [.null, .null] ["kept"]
  obtain ⟨-, -, -, -, -, -, -, hfree, -⟩ := register_lastWins reregistered "g" [] ["kept"]
  refine ⟨rfl, hnone.2 ?_, hrefused 2 _ hf (by decide), hruns _ hf, hfree _ hg⟩
  simp [reregistered, Registration.name]

end HostTable

end HostScript
