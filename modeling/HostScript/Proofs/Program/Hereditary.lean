import HostScript.Program.Wire
import HostScript.Proofs.Json.WrittenNumbers
import HostScript.Proofs.Program.Numbers

/-!
# Properties of all readers of the wire form

A property of readers on trees is hereditary if the readers of scalars have it and if readers of
nodes and lists have it that are combined from readers with the property. The induction over
programs is done here once: on the wire form of every program a hereditary property holds of the
reader of programs (`Hereditary.program`). Its value is the program with the numbers that are read
for those of the program.
-/

namespace HostScript

open Json Json.Reader

/-! ## Wire forms of lists -/

/-- The trees of a list are those of its expressions, in order. -/
theorem Expr.listToJson_eq_map (exprs : List Expr) :
    Expr.listToJson exprs = exprs.map Expr.toJson := by
  induction exprs with
  | nil => rfl
  | cons expr exprs ih => rw [Expr.listToJson, ih, List.map_cons]

/-- The trees of a block are those of its statements, in order. -/
theorem Statement.listToJson_eq_map (statements : List Statement) :
    Statement.listToJson statements = statements.map Statement.toJson := by
  induction statements with
  | nil => rfl
  | cons statement statements ih => rw [Statement.listToJson, ih, List.map_cons]

namespace Wire

/-- A property of readers at the level of a tree with some numbers, with the levels that are left
and the value that is read, which scalars have and which is closed under all ways to combine
readers. A number is a scalar only with the list that it stands in, since only the bracket after it
ends it. -/
structure Hereditary
    (Q : ∀ {α : Type}, Reader α → Nat → Json → List Binary64 → Nat → α → Prop) : Prop where
  string {level depth : Nat} (value : String) : Q string level (.string value) [] depth value
  boolean {level depth : Nat} (value : Bool) : Q boolean level (.boolean value) [] depth value
  number {level depth : Nat} (value : Binary64) :
    Q (single depth fun _ => number) level (.array [.ofBinary64 value]) [value] depth
      value.reread
  single {α : Type} {first : Nat → Reader α} {level depth : Nat} {a : Json}
    {numbers : List Binary64} {value : α} :
    Q (first (depth - 1)) (level + 1) a numbers (depth - 1) value →
    Q (single depth first) level (.array [a]) numbers depth value
  pair {α β : Type} {first : Nat → Reader α} {second : Nat → Reader β} {level depth : Nat}
    {a b : Json} {numbersA numbersB : List Binary64} {valueA : α} {valueB : β} :
    Q (first (depth - 1)) (level + 1) a numbersA (depth - 1) valueA →
    Q (second (depth - 1)) (level + 1) b numbersB (depth - 1) valueB →
    Q (pair depth first second) level (.array [a, b]) (numbersA ++ numbersB) depth (valueA, valueB)
  triple {α β γ : Type} {first : Nat → Reader α} {second : Nat → Reader β} {third : Nat → Reader γ}
    {level depth : Nat} {a b c : Json} {numbersA numbersB numbersC : List Binary64} {valueA : α}
    {valueB : β} {valueC : γ} :
    Q (first (depth - 1)) (level + 1) a numbersA (depth - 1) valueA →
    Q (second (depth - 1)) (level + 1) b numbersB (depth - 1) valueB →
    Q (third (depth - 1)) (level + 1) c numbersC (depth - 1) valueC →
    Q (triple depth first second third) level (.array [a, b, c]) (numbersA ++ numbersB ++ numbersC)
      depth (valueA, valueB, valueC)
  sequence {α δ : Type} {item : Nat → Reader α} {level depth : Nat} {values : List δ}
    {toJson : δ → Json} {numbersOf : δ → List Binary64} {resultOf : δ → α} :
    (∀ value ∈ values, Q (item (depth - 1)) (level + 1) (toJson value) (numbersOf value)
      (depth - 1) (resultOf value)) →
    Q (sequence item depth) level (.array (values.map toJson)) (values.flatMap numbersOf) depth
      (values.map resultOf)
  node {α β : Type} {kind tag : String} {body : String → Nat → Reader β} {inner : Reader α}
    {f : α → Reader β} {level depth : Nat} {operands : List Json}
    {numbers numbersA : List Binary64} {value : α} {result : β} :
    body tag (depth - 1) = (do colon; f (← inner)) → f value = pure result → numbers = numbersA →
    (0 < depth → Q inner (level + 1) (.array operands) numbersA (depth - 1) value) →
    Q (node kind depth body) level (.tagged tag operands) numbers depth result
  map {α β : Type} {reader : Reader α} {level depth : Nat} {json : Json} {numbers : List Binary64}
    {value : α} (f : α → β) : Q reader level json numbers depth value →
    Q (do return f (← reader)) level json numbers depth (f value)

/-- The literal that is read for a number. -/
def received (number : Binary64) : Expr :=
  .number number.reread

namespace Hereditary

variable {Q : ∀ {α : Type}, Reader α → Nat → Json → List Binary64 → Nat → α → Prop}

/-! ## Expressions -/

/-- The property holds on a list of expressions if it holds on each of them. -/
theorem expressions (hQ : Hereditary Q) {inner : Nat → Reader Expr} {exprs : List Expr}
    {level depth : Nat}
    (h : ∀ expr ∈ exprs, Q (inner (depth - 1)) (level + 1) expr.toJson expr.numbers (depth - 1)
      (expr.replaceNumbers received)) :
    Q (Wire.sequence inner depth) level (.array (Expr.listToJson exprs)) (Expr.listNumbers exprs)
      depth (Expr.listReplaceNumbers received exprs) := by
  rw [Expr.listToJson_eq_map, Expr.listReplaceNumbers_eq_map, Expr.listNumbers_eq_flatMap]
  exact hQ.sequence h

mutual

/-- Expressions have the property, by recursion over them. -/
theorem expressionWithin (hQ : Hereditary Q) : ∀ (expr : Expr) (bound depth level : Nat),
    depth < bound → Q (Wire.expressionWithin bound depth) level expr.toJson expr.numbers depth
      (expr.replaceNumbers received)
  | _, 0, _, _, hbound => absurd hbound (Nat.not_lt_zero _)
  -- A node spends two levels before its operands are read, and the bound shrinks by one.
  | .number value, bound + 1, _, _, _ => hQ.node rfl rfl rfl fun _ => hQ.number value
  | .string value, bound + 1, _, _, _ => hQ.node rfl rfl rfl fun _ => hQ.single (hQ.string value)
  | .boolean value, bound + 1, _, _, _ =>
      hQ.node rfl rfl rfl fun _ => hQ.single (hQ.boolean value)
  | .array elements, bound + 1, depth, level, hbound =>
      hQ.node rfl rfl rfl fun hdepth =>
        hQ.expressions (hQ.mem_expressionWithin elements bound _ _ (by omega))
  | .var name, bound + 1, _, _, _ => hQ.node rfl rfl rfl fun _ => hQ.single (hQ.string name)
  | .property base name, bound + 1, depth, level, hbound =>
      hQ.node rfl rfl (List.append_nil _).symm fun hdepth =>
        hQ.pair (hQ.expressionWithin base bound _ _ (by omega)) (hQ.string name)
  | .method base name args, bound + 1, depth, level, hbound =>
      hQ.node rfl rfl (by rw [List.append_nil, Expr.numbers]) fun hdepth =>
        hQ.triple (hQ.expressionWithin base bound _ _ (by omega)) (hQ.string name)
          (hQ.expressions (hQ.mem_expressionWithin args bound _ _ (by omega)))
  | .call name args, bound + 1, depth, level, hbound =>
      hQ.node rfl rfl (List.nil_append _).symm fun hdepth =>
        hQ.pair (hQ.string name)
          (hQ.expressions (hQ.mem_expressionWithin args bound _ _ (by omega)))
  | .binary operator left right, bound + 1, depth, level, hbound => by
      have hbody : expressionBody (Wire.expressionWithin bound) operator.symbol (depth - 1) = (do
          colon
          let (left, right) ←
            Wire.pair (depth - 1) (Wire.expressionWithin bound) (Wire.expressionWithin bound)
          return .binary operator left right) := by
        cases operator <;> rfl
      exact hQ.node hbody rfl rfl fun hdepth =>
        hQ.pair (hQ.expressionWithin left bound _ _ (by omega))
          (hQ.expressionWithin right bound _ _ (by omega))
  | .not operand, bound + 1, depth, level, hbound =>
      hQ.node rfl rfl rfl fun hdepth => hQ.single (hQ.expressionWithin operand bound _ _ (by omega))

/-- All expressions of a list have the property. -/
theorem mem_expressionWithin (hQ : Hereditary Q) : ∀ (exprs : List Expr) (bound depth level : Nat),
    depth < bound → ∀ expr ∈ exprs, Q (Wire.expressionWithin bound depth) level expr.toJson
      expr.numbers depth (expr.replaceNumbers received)
  | [], _, _, _, _ => fun _ hmem => absurd hmem List.not_mem_nil
  | expr :: exprs, bound, depth, level, hbound => List.forall_mem_cons.2
      ⟨hQ.expressionWithin expr bound depth level hbound,
        hQ.mem_expressionWithin exprs bound depth level hbound⟩

end

/-- The property holds on every expression. -/
theorem expression (hQ : Hereditary Q) (expr : Expr) (depth level : Nat) :
    Q (Wire.expression depth) level expr.toJson expr.numbers depth
      (expr.replaceNumbers received) :=
  hQ.expressionWithin expr (depth + 1) depth level (Nat.lt_succ_self depth)

/-! ## Statements -/

/-- The property holds on a block if it holds on each of its statements. -/
theorem statements (hQ : Hereditary Q) {inner : Nat → Reader Statement}
    {statements : List Statement} {level depth : Nat}
    (h : ∀ statement ∈ statements, Q (inner (depth - 1)) (level + 1) statement.toJson
      statement.numbers (depth - 1) (statement.replaceNumbers received)) :
    Q (Wire.sequence inner depth) level (.array (Statement.listToJson statements))
      (Statement.listNumbers statements) depth
      (Statement.listReplaceNumbers received statements) := by
  rw [Statement.listToJson_eq_map, Statement.listReplaceNumbers_eq_map,
    Statement.listNumbers_eq_flatMap]
  exact hQ.sequence h

mutual

/-- Statements have the property, by recursion over them. -/
theorem statementWithin (hQ : Hereditary Q) : ∀ (statement : Statement) (bound depth level : Nat),
    depth < bound → Q (Wire.statementWithin bound depth) level statement.toJson statement.numbers
      depth (statement.replaceNumbers received)
  | _, 0, _, _, hbound => absurd hbound (Nat.not_lt_zero _)
  -- The target travels as an expression of its own.
  | .assign name value, bound + 1, _, _, _ =>
      hQ.node rfl rfl rfl fun _ =>
        hQ.pair (hQ.expression (.var name) _ _) (hQ.expression value _ _)
  | .call name args, bound + 1, _, _, _ =>
      hQ.node rfl rfl (List.nil_append _).symm fun _ =>
        hQ.pair (hQ.string name) (hQ.expressions fun expr _ => hQ.expression expr _ _)
  | .method base name args, bound + 1, _, _, _ =>
      hQ.node rfl rfl (by rw [List.append_nil, Statement.numbers]) fun _ =>
        hQ.triple (hQ.expression base _ _) (hQ.string name)
          (hQ.expressions fun expr _ => hQ.expression expr _ _)
  | .branch test consequent alternative, bound + 1, depth, level, hbound =>
      hQ.node rfl rfl rfl fun hdepth => hQ.triple (hQ.expression test _ _)
        (hQ.statements (hQ.mem_statementWithin consequent bound _ _ (by omega)))
        (hQ.statements (hQ.mem_statementWithin alternative bound _ _ (by omega)))
  | .forEach binding iterable body, bound + 1, depth, level, hbound =>
      hQ.node rfl rfl (by rw [List.nil_append, Statement.numbers]) fun hdepth =>
        hQ.triple (hQ.string binding) (hQ.expression iterable _ _)
          (hQ.statements (hQ.mem_statementWithin body bound _ _ (by omega)))

/-- All statements of a block have the property. -/
theorem mem_statementWithin (hQ : Hereditary Q) :
    ∀ (statements : List Statement) (bound depth level : Nat), depth < bound →
      ∀ statement ∈ statements, Q (Wire.statementWithin bound depth) level statement.toJson
        statement.numbers depth (statement.replaceNumbers received)
  | [], _, _, _, _ => fun _ hmem => absurd hmem List.not_mem_nil
  | statement :: statements, bound, depth, level, hbound => List.forall_mem_cons.2
      ⟨hQ.statementWithin statement bound depth level hbound,
        hQ.mem_statementWithin statements bound depth level hbound⟩

end

/-- The property holds on every statement. -/
theorem statement (hQ : Hereditary Q) (statement : Statement) (depth level : Nat) :
    Q (Wire.statement depth) level statement.toJson statement.numbers depth
      (statement.replaceNumbers received) :=
  hQ.statementWithin statement (depth + 1) depth level (Nat.lt_succ_self depth)

/-- The property holds on every program. -/
theorem program (hQ : Hereditary Q) (program : Program) (depth level : Nat) :
    Q (Wire.program depth) level program.toJson program.numbers depth
      (program.mapNumbers Binary64.reread) :=
  hQ.map Program.mk (hQ.statements fun statement _ => hQ.statement statement _ _)

end Hereditary

end Wire

end HostScript
