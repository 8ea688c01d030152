import HostScript.Proofs.Dictionary
import HostScript.Proofs.Machine.Parametric

/-!
# The variables of a run

A run binds no variables but those of the assignments and loops of its program, whatever its result
is, and it never unbinds one. So an error about an undefined name is true of the whole run: the name
was not bound at its start and is not bound at its end. Read `run_registry` first.
-/

namespace HostScript

/-! ## Expressions -/

mutual

/-- An expression writes no variable. -/
theorem Expr.writes_notMem_mentions (name : String) :
    ∀ expr : Expr, .writes name ∉ expr.mentions
  | .number _ => List.not_mem_nil
  | .string _ => List.not_mem_nil
  | .boolean _ => List.not_mem_nil
  | .array elements => Expr.writes_notMem_listMentions name elements
  | .var _ => by simp [Expr.mentions]
  | .property base _ => Expr.writes_notMem_mentions name base
  | .method base _ args => List.not_mem_append (Expr.writes_notMem_mentions name base)
      (Expr.writes_notMem_listMentions name args)
  | .call _ args => List.not_mem_cons_of_ne_of_not_mem nofun
      (Expr.writes_notMem_listMentions name args)
  | .binary _ left right => List.not_mem_append (Expr.writes_notMem_mentions name left)
      (Expr.writes_notMem_mentions name right)
  | .not operand => Expr.writes_notMem_mentions name operand

/-- No list of expressions writes a variable. -/
theorem Expr.writes_notMem_listMentions (name : String) :
    ∀ exprs : List Expr, .writes name ∉ Expr.listMentions exprs
  | [] => List.not_mem_nil
  | expr :: exprs => List.not_mem_append (Expr.writes_notMem_mentions name expr)
      (Expr.writes_notMem_listMentions name exprs)

end

namespace Machine

variable {σ : Type}

/-- An expression may call functions, but it leaves the variables as they are. -/
theorem evaluate_registry (table : HostTable σ) (expr : Expr) (machine : Machine σ) :
    ((evaluate table expr).run machine).2.registry = machine.registry := by
  have hinvariant : Invariant table (fun mention => ∀ name, mention ≠ .writes name)
      (fun after => after.registry = machine.registry)
      (fun _ after => after.registry = machine.registry) :=
    { raise := fun _ h => h
      report := fun _ _ h => h
      undefined := fun _ _ h => h
      assign := fun _ _ hallowed _ => absurd rfl (hallowed _)
      unknown := fun _ _ h => h
      answers := fun _ _ _ h => h
      refuses := fun _ _ _ h => h }
  have hallowed : ∀ mention ∈ expr.mentions, ∀ name, mention ≠ .writes name :=
    fun mention hmention name h => expr.writes_notMem_mentions name (h ▸ hmention)
  have hends := hinvariant.parametric.evaluate expr hallowed machine rfl
  exact hends.holds (fun _ h => h) fun _ _ h => h

/-! ## Runs -/

/-- A registry that has all variables of an older one, and other values only for written names. -/
structure Extends (written : String → Prop) (older newer : Dictionary Value) : Prop where
  unwritten {name : String} : ¬ written name → newer.get? name = older.get? name
  bound {name : String} : older.contains name = true → newer.contains name = true

/-- Writing a variable of the allowed names extends the registry. -/
theorem Extends.insert {written : String → Prop} {older newer : Dictionary Value} {name : String}
    (h : Extends written older newer) (hname : written name) (value : Value) :
    Extends written older (newer.insert name value) where
  unwritten {other} hother := by
    have hne : other ≠ name := fun heq => hother (heq ▸ hname)
    rw [Dictionary.get?_insert, if_neg hne]
    exact h.unwritten hother
  bound {other} hother := by
    unfold Dictionary.contains
    rw [Dictionary.get?_insert]
    split
    · rfl
    · exact h.bound hother

/-- What an error says about an undefined name: the program uses the name, and it has no meaning. -/
def Undefines (table : HostTable σ) (program : Program) (machine : Machine σ) : RunError → Prop
  | .undefinedVariable name =>
    .reads name ∈ program.mentions ∧ machine.registry.contains name = false
  | .unknownFunction name => .calls name ∈ program.mentions ∧ table.contains name = false
  | _ => True

/-- Each step extends the registry at the start, and each error is true when it is raised. -/
theorem invariant_extends (table : HostTable σ) (program : Program) (older : Dictionary Value) :
    Invariant table (· ∈ program.mentions)
      (fun machine => Extends (.writes · ∈ program.mentions) older machine.registry)
      (fun error machine => Extends (.writes · ∈ program.mentions) older machine.registry ∧
        Undefines table program machine error) where
  raise {error _} hvalues h := by
    refine ⟨h, ?_⟩
    cases error with
    | undefinedVariable | unknownFunction => cases hvalues
    | _ => exact trivial
  report _ _ h := h
  undefined hname hnone h := ⟨h, hname, by simp [Dictionary.contains, hnone]⟩
  assign value _ hname h := h.insert hname value
  unknown hname hthere h := ⟨h, hname, hthere⟩
  answers _ _ _ h := h
  refuses _ _ _ h := ⟨h, trivial⟩

/-- Whatever the result of a run is, variables that its program does not assign and does not bind
in a loop have the bindings that they had, bound variables stay bound, and no expression changed a
variable. A variable that is said to be undefined is read by the program and is bound neither before
nor after the run, and a function that is said to be unknown is called by the program and is not
there. -/
theorem run_registry (table : HostTable σ) (program : Program) (machine : Machine σ) :
    (∀ name, .writes name ∉ program.mentions →
      (run table program machine).2.registry.get? name = machine.registry.get? name) ∧
    (∀ name, machine.registry.contains name = true →
      (run table program machine).2.registry.contains name = true) ∧
    (∀ (expr : Expr) (inner : Machine σ),
      ((evaluate table expr).run inner).2.registry = inner.registry) ∧
    (∀ name, (run table program machine).1 = .error (.undefinedVariable name) →
      .reads name ∈ program.mentions ∧
      (run table program machine).2.registry.contains name = false ∧
      machine.registry.contains name = false) ∧
    (∀ name, (run table program machine).1 = .error (.unknownFunction name) →
      .calls name ∈ program.mentions ∧ table.contains name = false) := by
  have hends := (invariant_extends table program machine.registry).run (fun _ h => h)
    ⟨fun _ => rfl, id⟩
  have hextends := hends.holds (fun _ h => h) fun _ _ h => h.1
  refine ⟨fun _ => hextends.unwritten, fun _ => hextends.bound, evaluate_registry table, ?_, ?_⟩
  · intro name hresult
    obtain ⟨hreads, hafter⟩ := (hends.failed hresult).2
    have hbefore : machine.registry.contains name = false :=
      Bool.eq_false_iff.2 fun h => Bool.eq_false_iff.1 hafter (hextends.bound h)
    exact ⟨hreads, hafter, hbefore⟩
  · intro name hresult
    exact (hends.failed hresult).2

/-- A loop over one item that calls a function with a variable that is never bound. -/
def careless : Program :=
  ⟨[.forEach "x" (.array [.string "a"]) [.assign "y" (.var "x"), .call "f" [.var "z"]]]⟩

/-- The call fails either way, after `x` and `y` are bound: without the function, and without the
variable once the function is there. -/
theorem run_registry_careless :
    let machine : Machine Unit := ⟨.ofList [("x", .null), ("kept", .boolean true)], (), #[]⟩
    let table : HostTable Unit := .ofList [("f", .reading fun _ _ => .ok .null)]
    let after := (run table careless machine).2
    after.registry.get? "kept" = some (.boolean true) ∧
    after.registry.get? "x" = some (.string "a") ∧ after.registry.contains "x" = true ∧
    (.reads "z" ∈ careless.mentions ∧ after.registry.contains "z" = false ∧
      machine.registry.contains "z" = false) ∧
    .calls "f" ∈ careless.mentions ∧ (∅ : HostTable Unit).contains "f" = false := by
  intro machine table after
  obtain ⟨hkept, hbound, -, hundefined, -⟩ := run_registry table careless machine
  refine ⟨hkept "kept" (by decide), rfl, hbound "x" rfl, hundefined "z" rfl, ?_⟩
  exact (run_registry (∅ : HostTable Unit) careless machine).2.2.2.2 "f" rfl

end Machine

end HostScript
