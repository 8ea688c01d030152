import HostScript.Host.Stock
import HostScript.Proofs.Machine.Covering
import HostScript.Proofs.Program.Wire
import HostScript.Proofs.Source.Compiling
import HostScript.Proofs.Source.WellFormed

/-!
# Running a program that was sent

A compiled program is read from its wire form with some of its literals changed: a negative zero
loses its sign, because it is written as an integer, and a literal whose text does not read back
becomes a number near it, because the reader rounds in several steps. Nothing else changes. A run of
the program that is read therefore has the same result unless it evaluates such a literal
(`run_decode_encode`), and a division shows the lost sign (`run_decode_encode_negativeZero`).
-/

namespace HostScript

/-! ## Compiled programs are sendable -/

mutual

/-- A well-formed expression has finite numbers only. -/
theorem Expr.WellFormed.isFinite : ∀ {expr : Expr}, expr.WellFormed →
    ∀ number ∈ expr.numbers, number.isFinite = true
  | .number _, h => List.forall_mem_singleton.2 h
  | .string _, _ => List.forall_mem_nil _
  | .boolean _, _ => List.forall_mem_nil _
  | .array _, h => Expr.ListWellFormed.isFinite h
  | .var _, _ => List.forall_mem_nil _
  | .property _ _, h => h.2.1.isFinite
  | .method _ _ _, h => List.forall_mem_append.2
      ⟨h.2.1.isFinite, h.2.2.2.isFinite⟩
  | .call _ _, h => h.2.isFinite
  | .binary _ _ _, h => List.forall_mem_append.2
      ⟨h.1.isFinite, h.2.isFinite⟩
  | .not operand, h => @Expr.WellFormed.isFinite operand h

/-- Well-formed expressions have finite numbers only. -/
theorem Expr.ListWellFormed.isFinite : ∀ {exprs : List Expr}, Expr.ListWellFormed exprs →
    ∀ number ∈ Expr.listNumbers exprs, number.isFinite = true
  | [], _ => List.forall_mem_nil _
  | _ :: _, h => List.forall_mem_append.2
      ⟨h.1.isFinite, h.2.isFinite⟩

end

mutual

/-- A well-formed statement has finite numbers only. -/
theorem Statement.WellFormed.isFinite : ∀ {statement : Statement}, statement.WellFormed →
    ∀ number ∈ statement.numbers, number.isFinite = true
  | .assign _ _, h => h.2.isFinite
  | .call _ _, h => h.2.isFinite
  | .method _ _ _, h => List.forall_mem_append.2
      ⟨h.2.1.isFinite, h.2.2.2.isFinite⟩
  | .branch _ _ _, h => List.forall_mem_append.2 ⟨List.forall_mem_append.2
      ⟨h.1.isFinite, h.2.1.isFinite⟩,
        h.2.2.1.isFinite⟩
  | .forEach _ _ _, h => List.forall_mem_append.2
      ⟨h.2.1.isFinite, h.2.2.isFinite⟩

/-- Well-formed statements have finite numbers only. -/
theorem Statement.ListWellFormed.isFinite : ∀ {statements : List Statement},
    Statement.ListWellFormed statements →
      ∀ number ∈ Statement.listNumbers statements, number.isFinite = true
  | [], _ => List.forall_mem_nil _
  | _ :: _, h => List.forall_mem_append.2
      ⟨h.1.isFinite, h.2.isFinite⟩

end

/-- A compiled program is sendable if its text is not too deep. -/
theorem sendable_of_compile {source : String} {program : Program}
    (hcompile : compile source = .ok program) (hdepth : Json.openAtOnce program.encode ≤ 127) :
    program.Sendable :=
  ⟨Statement.ListWellFormed.isFinite (derives_of_compile hcompile).wellFormed, hdepth⟩

/-! ## Literals that change -/

/-- A number is read as itself exactly if it is not the negative zero and reads back. -/
theorem Binary64.reread_eq_self_iff {number : Binary64} :
    number.reread = number ↔ number.isNegativeZero = false ∧ number.ReadsBack := by
  cases hzero : number.isNegativeZero with
  | false =>
      have hself : number.unsignZero = number := by simp [unsignZero, hzero]
      rw [ReadsBack, hself]
      exact (and_iff_right rfl).symm
  | true =>
      refine iff_of_false (fun hself => ?_) fun hsame => Bool.false_ne_true hsame.1.symm
      obtain rfl := eq_zero_of_isNegativeZero hzero
      -- Zeros are written as an integer, so the sign is not read.
      have hback : (zero true).ReadsBack := readsBack_of_toInt? (toInt?_zero rfl) (Nat.zero_le _)
      rw [ReadsBack, hself] at hback
      exact absurd hback (by decide)

/-- The literal of a number, but in the place of one that is read as another number a property is
read that its value does not have. -/
def Binary64.spoiled (property : String) (number : Binary64) : Expr :=
  if number.reread = number then .number number else .property (.boolean false) property

/-- Whether a run evaluates a literal that is read as another number: it then fails with whatever
error is put in the place of those literals. -/
def Program.ReachesChanged (program : Program) (table : HostTable Context)
    (context : Context) : Prop :=
  ∀ property, (program.replaceNumbers (Binary64.spoiled property)).run table context =
    .error (.unknownProperty .boolean property)

namespace Program

variable {program : Program} {table : HostTable Context} {context : Context}

/-- Without such a literal none is reached. -/
theorem exists_of_reachesChanged (h : program.ReachesChanged table context) :
    ∃ number ∈ program.numbers, number.reread ≠ number := by
  refine Classical.byContradiction fun hnone => ?_
  have hsame : ∀ property, program.replaceNumbers (Binary64.spoiled property) = program := by
    intro property
    refine replaceNumbers_eq_self_iff.2 fun number hnumber => if_pos ?_
    exact Classical.byContradiction fun hchanged => hnone ⟨number, hnumber, hchanged⟩
  -- One program would fail with two different errors.
  have hone := h "one"
  have hother := h "other"
  rw [hsame] at hone hother
  rw [hone] at hother
  simp at hother

/-- Spoiled literals cover literals that are changed only where they are read as other numbers. -/
theorem spoiled_covers (property : String) {f : Binary64 → Binary64}
    (hf : ∀ number, number.reread = number → f number = number) (number : Binary64) :
    Machine.Covers (.unknownProperty .boolean property)
      (Machine.evaluate table (number.spoiled property))
      (Machine.evaluate table (.number (f number))) := by
  unfold Binary64.spoiled
  split
  · next hsame =>
      rw [hf number hsame]
      exact .refl _
  · exact fun _ => .inl rfl

/-- A run that reaches no such literal does not depend on what is read for them. -/
theorem run_mapNumbers_reread (h : ¬ program.ReachesChanged table context) :
    (program.mapNumbers Binary64.reread).run table context = program.run table context := by
  -- Both runs are compared with the one in which the literals are spoiled.
  obtain ⟨property, hproperty⟩ := Classical.not_forall.1 h
  have hcovers : ∀ {f : Binary64 → Binary64},
      (∀ number, number.reread = number → f number = number) →
      (program.mapNumbers f).run table context =
        (program.replaceNumbers (Binary64.spoiled property)).run table context := fun hf =>
    ((run_covers (spoiled_covers property hf) program context).resolve_left hproperty).symm
  have hself : program.mapNumbers id = program := mapNumbers_eq_self_iff.2 fun _ _ => rfl
  calc (program.mapNumbers Binary64.reread).run table context
      = (program.replaceNumbers (Binary64.spoiled property)).run table context :=
        hcovers fun _ hsame => hsame
    _ = (program.mapNumbers id).run table context := (hcovers fun _ _ => rfl).symm
    _ = program.run table context := by rw [hself]

end Program

/-- A compiled program that is not too deep is read from its wire form, with the numbers that are
read for its literals. It is the same program exactly if no literal is the negative zero and all
literals read back, and each run of it has the same result unless the run evaluates a literal that
is read as another number. -/
theorem run_decode_encode {source : String} {program : Program}
    (hcompile : compile source = .ok program) (hdepth : Json.openAtOnce program.encode ≤ 127) :
    ∃ received, Program.decode program.encode = .ok received ∧
      received = program.mapNumbers Binary64.reread ∧
      (received = program ↔
        ∀ number ∈ program.numbers, number.isNegativeZero = false ∧ number.ReadsBack) ∧
      ∀ (table : HostTable Context) (context : Context),
        (program.ReachesChanged table context →
          ∃ number ∈ program.numbers, number.isNegativeZero = true ∨ ¬ number.ReadsBack) ∧
        (¬ program.ReachesChanged table context →
          received.run table context = program.run table context) := by
  have hsendable := sendable_of_compile hcompile hdepth
  refine ⟨program.mapNumbers Binary64.reread,
    (program.decode_render Json.Layout.isBlank_compact).1 hsendable, rfl, ?_,
    fun table context => ⟨fun hreaches => ?_, Program.run_mapNumbers_reread⟩⟩
  · simp only [Program.mapNumbers_eq_self_iff, Binary64.reread_eq_self_iff]
  · obtain ⟨number, hnumber, hchanged⟩ := Program.exists_of_reachesChanged hreaches
    refine ⟨number, hnumber, ?_⟩
    rw [Ne, Binary64.reread_eq_self_iff, not_and_or, Bool.not_eq_false] at hchanged
    exact hchanged

/-- The number that a run from the empty context leaves under a name. -/
def Program.numberLeft? (program : Program) (name : String) : Option Binary64 :=
  ((program.run HostFunction.stockTable ∅).toOption.bind (·.get? name)).bind Value.number?

/-- A negative zero in a branch that is not taken makes another program with the same result. -/
theorem run_decode_encode_unreached :
    ∃ program received, compile "if false then a = -0 end set(\"a\", 1 / 2)" = .ok program ∧
      Json.openAtOnce program.encode ≤ 127 ∧ Program.decode program.encode = .ok received ∧
      received ≠ program ∧
      received.run HostFunction.stockTable ∅ = program.run HostFunction.stockTable ∅ := by
  have hcheck : (match compile "if false then a = -0 end set(\"a\", 1 / 2)" with
      | .error _ => false
      | .ok program => decide (Json.openAtOnce program.encode ≤ 127) &&
          (program.numbers.any Binary64.isNegativeZero &&
            ((program.replaceNumbers (Binary64.spoiled "")).numberLeft? "a").isSome)) = true := by
    decide +kernel
  split at hcheck
  · cases hcheck
  next program hcompile =>
    simp only [Bool.and_eq_true, decide_eq_true_eq, List.any_eq_true] at hcheck
    obtain ⟨hdepth, ⟨number, hnumber, hzero⟩, hleft⟩ := hcheck
    obtain ⟨received, hdecode, -, hsame, hrun⟩ := run_decode_encode hcompile hdepth
    refine ⟨program, received, hcompile, hdepth, hdecode, fun heq => ?_,
      (hrun _ _).2 fun hreaches => ?_⟩
    · rw [(hsame.1 heq number hnumber).1] at hzero
      cases hzero
    · rw [Program.numberLeft?, hreaches ""] at hleft
      cases hleft

/-- A division by a literal that is the negative zero gives the other infinity once the program was
sent. -/
theorem run_decode_encode_negativeZero :
    ∃ program received, compile "set(\"a\", 1 / -0)" = .ok program ∧
      Json.openAtOnce program.encode ≤ 127 ∧ Program.decode program.encode = .ok received ∧
      received.run HostFunction.stockTable ∅ ≠ program.run HostFunction.stockTable ∅ := by
  have hcheck : (match compile "set(\"a\", 1 / -0)" with
      | .error _ => false
      | .ok program =>
        match Program.decode program.encode with
        | .error _ => false
        | .ok received => decide (Json.openAtOnce program.encode ≤ 127) &&
            received.numberLeft? "a" != program.numberLeft? "a") = true := by
    decide +kernel
  split at hcheck
  · cases hcheck
  split at hcheck
  · cases hcheck
  next program hcompile _ received hdecode =>
    simp only [Bool.and_eq_true, decide_eq_true_eq, bne_iff_ne] at hcheck
    refine ⟨program, received, hcompile, hcheck.1, hdecode, fun hsame => hcheck.2 ?_⟩
    rw [Program.numberLeft?, hsame, Program.numberLeft?]

end HostScript
