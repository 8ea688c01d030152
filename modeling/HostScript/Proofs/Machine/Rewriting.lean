import HostScript.Proofs.Machine.Invocations

/-!
# Rewriting programs

Laws of the logical operators hold of expressions as computations, because both operands are always
evaluated and the result is always a truth value. A loop over literals is an assignment and the body
for each of them, whatever the body does with the variable of the loop. Written anywhere in a
program, neither shows in its result, in what it leaves, or in its calls (`run_of_rewrites`): read
that first.
-/

namespace HostScript

mutual

/-- Whether an expression is a literal: a number, a string, a truth value or an array of
literals. -/
def Expr.isLiteral : Expr → Bool
  | .number _ => true
  | .string _ => true
  | .boolean _ => true
  | .array elements => Expr.areLiterals elements
  | _ => false

/-- Whether all of some expressions are literals. -/
def Expr.areLiterals : List Expr → Bool
  | [] => true
  | expr :: exprs => expr.isLiteral && Expr.areLiterals exprs

end

/-- The laws of the logical operators. -/
inductive Expr.Law : Expr → Expr → Prop
  | notAnd (a b : Expr) : Law (.not (.binary .and a b)) (.binary .or (.not a) (.not b))
  | notOr (a b : Expr) : Law (.not (.binary .or a b)) (.binary .and (.not a) (.not b))
  | andAssoc (a b c : Expr) :
    Law (.binary .and (.binary .and a b) c) (.binary .and a (.binary .and b c))
  | orAssoc (a b c : Expr) :
    Law (.binary .or (.binary .or a b) c) (.binary .or a (.binary .or b c))
  | notEqual (a b : Expr) : Law (.binary .notEqual a b) (.not (.binary .equal a b))
  | notNotNot (a : Expr) : Law (.not (.not (.not a))) (.not a)

/-- One expression becomes another one by laws, used anywhere inside it and in either direction. -/
inductive Expr.Rewrites : Expr → Expr → Prop
  | law {left right : Expr} : Law left right → Rewrites left right
  | symm {left right : Expr} : Rewrites left right → Rewrites right left
  | trans {left middle right : Expr} : Rewrites left middle → Rewrites middle right →
    Rewrites left right
  | element (before after : List Expr) {left right : Expr} : Rewrites left right →
    Rewrites (.array (before ++ left :: after)) (.array (before ++ right :: after))
  | propertyBase (name : String) {left right : Expr} : Rewrites left right →
    Rewrites (.property left name) (.property right name)
  | methodBase (name : String) (args : List Expr) {left right : Expr} : Rewrites left right →
    Rewrites (.method left name args) (.method right name args)
  | methodArg (base : Expr) (name : String) (before after : List Expr) {left right : Expr} :
    Rewrites left right →
    Rewrites (.method base name (before ++ left :: after))
      (.method base name (before ++ right :: after))
  | callArg (name : String) (before after : List Expr) {left right : Expr} :
    Rewrites left right →
    Rewrites (.call name (before ++ left :: after)) (.call name (before ++ right :: after))
  | leftOperand (operator : Operator) (other : Expr) {left right : Expr} : Rewrites left right →
    Rewrites (.binary operator left other) (.binary operator right other)
  | rightOperand (operator : Operator) (other : Expr) {left right : Expr} : Rewrites left right →
    Rewrites (.binary operator other left) (.binary operator other right)
  | negated {left right : Expr} : Rewrites left right → Rewrites (.not left) (.not right)

/-- One block of statements becomes another one by laws of expressions anywhere inside it, and by
loops over literals that are written out, in either direction. -/
inductive Statement.Rewrites : List Statement → List Statement → Prop
  | unroll (binding : String) {literals : List Expr} (body : List Statement) :
    (∀ literal ∈ literals, literal.isLiteral = true) →
    Rewrites [.forEach binding (.array literals) body]
      (literals.flatMap fun literal => .assign binding literal :: body)
  | symm {left right : List Statement} : Rewrites left right → Rewrites right left
  | trans {left middle right : List Statement} : Rewrites left middle → Rewrites middle right →
    Rewrites left right
  | within (before after : List Statement) {left right : List Statement} : Rewrites left right →
    Rewrites (before ++ left ++ after) (before ++ right ++ after)
  | assigned (name : String) {left right : Expr} : left.Rewrites right →
    Rewrites [.assign name left] [.assign name right]
  | callArg (name : String) (before after : List Expr) {left right : Expr} : left.Rewrites right →
    Rewrites [.call name (before ++ left :: after)] [.call name (before ++ right :: after)]
  | methodBase (name : String) (args : List Expr) {left right : Expr} : left.Rewrites right →
    Rewrites [.method left name args] [.method right name args]
  | methodArg (base : Expr) (name : String) (before after : List Expr) {left right : Expr} :
    left.Rewrites right →
    Rewrites [.method base name (before ++ left :: after)]
      [.method base name (before ++ right :: after)]
  | test (consequent alternative : List Statement) {left right : Expr} : left.Rewrites right →
    Rewrites [.branch left consequent alternative] [.branch right consequent alternative]
  | consequent (test : Expr) (alternative : List Statement) {left right : List Statement} :
    Rewrites left right →
    Rewrites [.branch test left alternative] [.branch test right alternative]
  | alternative (test : Expr) (consequent : List Statement) {left right : List Statement} :
    Rewrites left right →
    Rewrites [.branch test consequent left] [.branch test consequent right]
  | iterable (binding : String) (body : List Statement) {left right : Expr} : left.Rewrites right →
    Rewrites [.forEach binding left body] [.forEach binding right body]
  | body (binding : String) (iterable : Expr) {left right : List Statement} :
    Rewrites left right →
    Rewrites [.forEach binding iterable left] [.forEach binding iterable right]

/-- One program becomes another one by rewriting its statements. -/
def Program.Rewrites (left right : Program) : Prop :=
  Statement.Rewrites left.statements right.statements

namespace Machine

variable {σ α β : Type}

/-- The sides of a law evaluate alike. -/
theorem evaluate_law (table : HostTable σ) {left right : Expr} (h : Expr.Law left right) :
    evaluate table left = evaluate table right := by
  cases h with
  | notAnd a b => simp [evaluate, Operator.apply, lift_ok, Value.isTruthy]
  | notOr a b => simp [evaluate, Operator.apply, lift_ok, Value.isTruthy]
  | andAssoc a b c => simp [evaluate, Operator.apply, lift_ok, Value.isTruthy, Bool.and_assoc]
  | orAssoc a b c => simp [evaluate, Operator.apply, lift_ok, Value.isTruthy, Bool.or_assoc]
  | notEqual a b => simp [evaluate, Operator.apply, lift_ok, Value.isTruthy]
  | notNotNot a => simp [evaluate, Value.isTruthy]

/-- One element of a list may be replaced by one that evaluates alike. -/
theorem evaluateAll_append_cons (table : HostTable σ) {left right : Expr}
    (h : evaluate table left = evaluate table right) (before after : List Expr) :
    evaluateAll table (before ++ left :: after) = evaluateAll table (before ++ right :: after) := by
  induction before with
  | nil => simp [evaluateAll, h]
  | cons first before ih => simp [evaluateAll, ih]

/-- Expressions that rewrite to each other evaluate alike. -/
theorem evaluate_rewrites (table : HostTable σ) {left right : Expr} (h : left.Rewrites right) :
    evaluate table left = evaluate table right := by
  induction h with
  | law hlaw => exact evaluate_law table hlaw
  | symm _ ih => exact ih.symm
  | trans _ _ ih ihnext => exact ih.trans ihnext
  | element before after _ ih => rw [evaluate, evaluate, evaluateAll_append_cons table ih]
  | propertyBase name _ ih => rw [evaluate, evaluate, ih]
  | methodBase name args _ ih => rw [evaluate, evaluate, ih]
  | methodArg base name before after _ ih =>
      rw [evaluate, evaluate, evaluateAll_append_cons table ih]
  | callArg name before after _ ih => rw [evaluate, evaluate, evaluateAll_append_cons table ih]
  | leftOperand operator other _ ih => rw [evaluate, evaluate, ih]
  | rightOperand operator other _ ih => rw [evaluate, evaluate, ih]
  | negated _ ih => rw [evaluate, evaluate, ih]

/-! ## Runs up to their reports -/

/-- Machines that differ in their events at most. -/
structure SameState (left right : Machine σ) : Prop where
  registry : left.registry = right.registry
  context : left.context = right.context

/-- Computations that differ in what they report at most: machines in the same state lead to the
same result and to machines in the same state. -/
def Indistinct (first other : Run σ α) : Prop :=
  ∀ left right, SameState left right →
    (first.run left).1 = (other.run right).1 ∧ SameState (first.run left).2 (other.run right).2

namespace Indistinct

/-- Which of two computations comes first does not matter. -/
theorem symm {first other : Run σ α} (h : Indistinct first other) : Indistinct other first := by
  intro left right hsame
  obtain ⟨hresult, hafter⟩ := h right left ⟨hsame.registry.symm, hsame.context.symm⟩
  exact ⟨hresult.symm, hafter.registry.symm, hafter.context.symm⟩

/-- Being indistinct is transitive. -/
theorem trans {first second third : Run σ α} (h : Indistinct first second)
    (hnext : Indistinct second third) : Indistinct first third := by
  intro left right hsame
  obtain ⟨hresult, hafter⟩ := h left right hsame
  obtain ⟨hnextResult, hnextAfter⟩ := hnext right right ⟨rfl, rfl⟩
  exact ⟨hresult.trans hnextResult, hafter.registry.trans hnextAfter.registry,
    hafter.context.trans hnextAfter.context⟩

/-- Computations that are indistinct stay so one after the other. -/
theorem bind {first other : Run σ α} {next otherNext : α → Run σ β} (h : Indistinct first other)
    (hnext : ∀ value, Indistinct (next value) (otherNext value)) :
    Indistinct (first >>= next) (other >>= otherNext) := by
  intro left right hsame
  obtain ⟨hresult, hafter⟩ := h left right hsame
  rw [run_bind, run_bind]
  rcases hleft : first.run left with ⟨result, after⟩
  rcases hright : other.run right with ⟨otherResult, otherAfter⟩
  rw [hleft, hright] at hresult hafter
  obtain rfl : result = otherResult := hresult
  cases result with
  | error error => exact ⟨rfl, hafter⟩
  | ok value => exact hnext value after otherAfter hafter

/-- Whatever is reported, the state stays as it is. -/
theorem report (event other : Event) :
    Indistinct (Machine.report event : Run σ Unit) (Machine.report other) :=
  fun _ _ hsame => ⟨rfl, hsame.registry, hsame.context⟩

/-- A report makes no difference. -/
theorem reporting (event : Event) {first other : Run σ α} (h : Indistinct first other) :
    Indistinct (do Machine.report event; first) other :=
  fun left right hsame => h { left with events := left.events.push event } right
    ⟨hsame.registry, hsame.context⟩

end Indistinct

/-- No step of a program depends on what was reported. -/
theorem parametric_indistinct (table : HostTable σ) :
    Parametric table table (fun _ => True) Indistinct where
  pure _ _ _ hsame := ⟨rfl, hsame⟩
  bind := .bind
  raise _ _ _ hsame := ⟨rfl, hsame⟩
  report tag := .report _ _
  lookup {name} _ left right hsame := by
    rw [run_lookup, run_lookup, hsame.registry]
    cases right.registry.get? name with
    | none => exact ⟨rfl, hsame⟩
    | some value => exact ⟨rfl, hsame⟩
  assign {name} value _ _ _ hsame :=
    ⟨rfl, congrArg (·.insert name value) hsame.registry, hsame.context⟩
  contains _ := rfl
  unknown _ _ _ _ hsame := ⟨rfl, hsame⟩
  callHost {name} args _ hthere left right hsame := by
    obtain ⟨function, hget⟩ := Option.isSome_iff_exists.1 hthere
    rw [run_callHost hget, run_callHost hget, hsame.context]
    exact ⟨rfl, hsame.registry, rfl⟩

namespace Indistinct

variable (table : HostTable σ)

/-- An assignment does not look at what was reported. -/
theorem assign (name : String) (value : Value) :
    Indistinct (Machine.assign name value : Run σ Unit) (Machine.assign name value) :=
  (parametric_indistinct (∅ : HostTable σ)).assign value trivial

/-- The value of an expression does not depend on what was reported. -/
theorem evaluate (expr : Expr) :
    Indistinct (Machine.evaluate table expr) (Machine.evaluate table expr) :=
  (parametric_indistinct table).evaluate expr fun _ _ => trivial

/-- What a block does to the state does not depend on what was reported. -/
theorem executeAll (statements : List Statement) :
    Indistinct (Machine.executeAll table statements) (Machine.executeAll table statements) :=
  (parametric_indistinct table).executeAll statements fun _ _ => trivial

variable {table}

/-- Statements that are executed alike make blocks that are. -/
theorem single {left right : Statement}
    (h : Indistinct (execute table left) (execute table right)) :
    Indistinct (Machine.executeAll table [left]) (Machine.executeAll table [right]) :=
  .bind (.report _ _) fun _ => h.bind fun _ => executeAll table []

/-- Statements that execute alike are indistinct as blocks. -/
theorem of_execute_eq {left right : Statement} (h : execute table left = execute table right) :
    Indistinct (Machine.executeAll table [left]) (Machine.executeAll table [right]) :=
  single (h ▸ (parametric_indistinct table).execute left fun _ _ => trivial)

/-- Parts of blocks that are executed alike make blocks that are. -/
theorem within {left right : List Statement}
    (h : Indistinct (Machine.executeAll table left) (Machine.executeAll table right))
    (before after : List Statement) :
    Indistinct (Machine.executeAll table (before ++ left ++ after))
      (Machine.executeAll table (before ++ right ++ after)) := by
  rw [executeAll_append, executeAll_append, executeAll_append, executeAll_append]
  exact ((executeAll table before).bind fun _ => h).bind fun _ => executeAll table after

end Indistinct

/-! ## Loops over literals -/

mutual

/-- A literal is its own value. -/
theorem evaluate_of_isLiteral (table : HostTable σ) : ∀ expr : Expr, expr.isLiteral = true →
    ∃ value, evaluate table expr = pure value
  | .number value, _ => ⟨.number value, rfl⟩
  | .string value, _ => ⟨.string value, rfl⟩
  | .boolean value, _ => ⟨.boolean value, rfl⟩
  | .array elements, h => by
      obtain ⟨values, hvalues⟩ := evaluateAll_of_areLiterals table elements h
      exact ⟨.array values, by rw [evaluate, hvalues, pure_bind]⟩

/-- Literals evaluate to values and change nothing. -/
theorem evaluateAll_of_areLiterals (table : HostTable σ) : ∀ exprs : List Expr,
    Expr.areLiterals exprs = true → ∃ values, evaluateAll table exprs = pure values
  | [], _ => ⟨[], rfl⟩
  | expr :: exprs, h => by
      obtain ⟨hexpr, hexprs⟩ := Bool.and_eq_true_iff.1 h
      obtain ⟨value, hvalue⟩ := evaluate_of_isLiteral table expr hexpr
      obtain ⟨values, hvalues⟩ := evaluateAll_of_areLiterals table exprs hexprs
      exact ⟨value :: values, by rw [evaluateAll, hvalue, pure_bind, hvalues, pure_bind]⟩

end

/-- The rounds of a loop over literals are an assignment and the body for each of them. -/
theorem rounds_of_literals (table : HostTable σ) (binding : String) {literals : List Expr}
    (body : List Statement) (h : ∀ literal ∈ literals, literal.isLiteral = true) :
    ∃ values, evaluateAll table literals = pure values ∧
      Indistinct (values.forM fun value => do assign binding value; executeAll table body)
        (executeAll table (literals.flatMap fun literal => .assign binding literal :: body)) := by
  induction literals with
  | nil => exact ⟨[], rfl, .executeAll table []⟩
  | cons literal literals ih =>
      obtain ⟨hliteral, hliterals⟩ := List.forall_mem_cons.1 h
      obtain ⟨value, hvalue⟩ := evaluate_of_isLiteral table literal hliteral
      obtain ⟨values, hvalues, hrounds⟩ := ih hliterals
      refine ⟨value :: values, by rw [evaluateAll, hvalue, pure_bind, hvalues, pure_bind], ?_⟩
      have hassign : execute table (.assign binding literal) = assign binding value := by
        rw [execute, hvalue, pure_bind]
      rw [List.flatMap_cons, List.cons_append, executeAll, executeAll_append, hassign]
      refine Indistinct.symm (.reporting _ ?_)
      rw [← bind_assoc]
      refine .bind (.bind (.assign binding value) fun _ => .executeAll table body) fun _ => ?_
      exact hrounds.symm

/-- A loop over literals is its body once for each of them, after an assignment. -/
theorem unroll_indistinct (table : HostTable σ) (binding : String) {literals : List Expr}
    (body : List Statement) (h : ∀ literal ∈ literals, literal.isLiteral = true) :
    Indistinct (executeAll table [.forEach binding (.array literals) body])
      (executeAll table (literals.flatMap fun literal => .assign binding literal :: body)) := by
  obtain ⟨values, hvalues, hrounds⟩ := rounds_of_literals table binding body h
  have hloop : executeAll table [.forEach binding (.array literals) body] = (do
      report (.executing "foreach")
      values.forM fun value => do assign binding value; executeAll table body) := by
    simp [executeAll, execute, evaluate, hvalues, forEachItem, Statement.tag]
  rw [hloop]
  exact .reporting _ hrounds

/-! ## Rewriting -/

/-- Blocks that become each other are executed alike. -/
theorem indistinct_of_rewrites (table : HostTable σ) {left right : List Statement}
    (h : Statement.Rewrites left right) :
    Indistinct (executeAll table left) (executeAll table right) := by
  induction h with
  | unroll binding body hliterals => exact unroll_indistinct table binding body hliterals
  | symm _ ih => exact ih.symm
  | trans _ _ ih ihnext => exact ih.trans ihnext
  | within before after _ ih => exact ih.within before after
  | assigned name hexpr =>
      refine .of_execute_eq ?_
      rw [execute, execute, evaluate_rewrites table hexpr]
  | callArg name before after hexpr =>
      refine .of_execute_eq ?_
      rw [execute, execute, evaluate_rewrites table (.callArg name before after hexpr)]
  | methodBase name args hexpr =>
      refine .of_execute_eq ?_
      rw [execute, execute, evaluate_rewrites table (.methodBase name args hexpr)]
  | methodArg base name before after hexpr =>
      refine .of_execute_eq ?_
      rw [execute, execute, evaluate_rewrites table (.methodArg base name before after hexpr)]
  | test consequent alternative hexpr =>
      refine .of_execute_eq ?_
      rw [execute, execute, evaluate_rewrites table hexpr]
  | consequent test alternative _ ih =>
      refine .single (.bind (.evaluate table test) fun value => ?_)
      cases value.isTruthy with
      | true => exact ih
      | false => exact .executeAll table alternative
  | alternative test consequent _ ih =>
      refine .single (.bind (.evaluate table test) fun value => ?_)
      cases value.isTruthy with
      | true => exact .executeAll table consequent
      | false => exact ih
  | iterable binding body hexpr =>
      refine .of_execute_eq ?_
      rw [execute, execute, evaluate_rewrites table hexpr]
  | body binding iterable _ ih =>
      refine .single (.bind (.evaluate table iterable) fun value => ?_)
      exact (parametric_indistinct table).forEachItem value fun item =>
        .bind (.assign binding item) fun _ => ih

/-- Rewriting a program by the laws of the logical operators and by writing out loops over
literals, anywhere in it and in either direction, changes neither its result, nor the variables and
the context that it leaves, nor the calls that it makes with their arguments. -/
theorem run_of_rewrites {program other : Program} (h : program.Rewrites other)
    (table : HostTable σ) (machine : Machine σ) :
    (run table other machine).1 = (run table program machine).1 ∧
    (run table other machine).2.registry = (run table program machine).2.registry ∧
    (run table other machine).2.context = (run table program machine).2.context ∧
    invocations table other machine = invocations table program machine := by
  obtain ⟨hresult, hregistry, hcontext⟩ :=
    indistinct_of_rewrites table h machine machine ⟨rfl, rfl⟩
  obtain ⟨-, -, hrecord⟩ :=
    indistinct_of_rewrites table.recorded h (machine.recorded []) (machine.recorded []) ⟨rfl, rfl⟩
  exact ⟨hresult.symm, hregistry.symm, hcontext.symm, congrArg Prod.snd hrecord.symm⟩

/-- The body of a loop that changes the variable of the loop, in a loop over that variable. -/
def shadowing : List Statement :=
  [.call "tick" [.var "x"], .forEach "x" (.array [.string "b"]) [.assign "x" (.not (.var "x"))]]

/-- A loop over two literals, and a call that fails after it. -/
def looped : Program :=
  ⟨[.forEach "x" (.array [.boolean true, .array [.string "a"]]) shadowing,
    .call "tick" [.not (.binary .and (.var "x") (.var "z"))]]⟩

/-- The same program with the outer loop written out and the negation moved inwards. -/
def unlooped : Program :=
  ⟨.assign "x" (.boolean true) :: shadowing ++ .assign "x" (.array [.string "a"]) :: shadowing ++
    [.call "tick" [.binary .or (.not (.var "x")) (.not (.var "z"))]]⟩

/-- The loop that is written out ticks for its two literals, and both programs fail at the variable
that is never bound. -/
theorem run_of_rewrites_looped :
    let table : HostTable Nat := .ofList [("tick", tick)]
    looped.Rewrites unlooped ∧
    (run table unlooped (.start 0)).1 = .error (.undefinedVariable "z") ∧
    (run table unlooped (.start 0)).2.registry.get? "x" = some (.boolean false) ∧
    (run table unlooped (.start 0)).2.context = 2 ∧
    invocations table unlooped (.start 0) =
      [⟨"tick", [.boolean true], 0, .ok .null, 1⟩,
        ⟨"tick", [.array [.string "a"]], 1, .ok .null, 2⟩] := by
  intro table
  have hloop : looped.Rewrites
      ⟨.assign "x" (.boolean true) :: shadowing ++ .assign "x" (.array [.string "a"]) ::
        shadowing ++ [.call "tick" [.not (.binary .and (.var "x") (.var "z"))]]⟩ :=
    .within [] [.call "tick" [.not (.binary .and (.var "x") (.var "z"))]]
      (.unroll "x" shadowing (by decide))
  have hrewrites : looped.Rewrites unlooped :=
    .trans hloop (.within (.assign "x" (.boolean true) :: shadowing ++
      .assign "x" (.array [.string "a"]) :: shadowing) []
      (.callArg "tick" [] [] (.law (.notAnd _ _))))
  obtain ⟨hresult, hregistry, hcontext, hcalls⟩ := run_of_rewrites hrewrites table (.start 0)
  refine ⟨hrewrites, hresult, ?_, hcontext, hcalls⟩
  rw [hregistry]
  rfl

end Machine

end HostScript
