import HostScript.Json.Reader
import HostScript.Program.Basic

/-!
# The wire form of programs

On the wire every node is an object with one key, the tag of the node, whose value is the list of
its operands. `Program.toJson` builds that tree. `Program.decode` reads it back from text, strictly
and from left to right: the tag is checked before its operands are read, the target of an assignment
after them, and a second key as soon as it was read.
-/

namespace HostScript

/-- A node of the wire form. -/
def Json.tagged (tag : String) (operands : List Json) : Json :=
  .object [(tag, .array operands)]

mutual

/-- The wire form of an expression. -/
def Expr.toJson : Expr → Json
  | .number value => .tagged "number" [.ofBinary64 value]
  | .string value => .tagged "string" [.string value]
  | .boolean value => .tagged "boolean" [.boolean value]
  | .array elements => .tagged "array" (Expr.listToJson elements)
  | .var name => .tagged "var" [.string name]
  | .property base name => .tagged "prop" [base.toJson, .string name]
  | .method base name args =>
    .tagged "call" [base.toJson, .string name, .array (Expr.listToJson args)]
  | .call name args => .tagged "func" [.string name, .array (Expr.listToJson args)]
  | .binary operator left right => .tagged operator.symbol [left.toJson, right.toJson]
  | .not operand => .tagged "not" [operand.toJson]

/-- The wire forms of a list of expressions. -/
def Expr.listToJson : List Expr → List Json
  | [] => []
  | expr :: exprs => expr.toJson :: Expr.listToJson exprs

end

mutual

/-- The wire form of a statement. -/
def Statement.toJson : Statement → Json
  | .assign name value => .tagged "=" [.tagged "var" [.string name], value.toJson]
  | .call name args => .tagged "func" [.string name, .array (Expr.listToJson args)]
  | .method base name args =>
    .tagged "call" [base.toJson, .string name, .array (Expr.listToJson args)]
  | .branch test consequent alternative =>
    .tagged "if" [test.toJson, .array (Statement.listToJson consequent),
      .array (Statement.listToJson alternative)]
  | .forEach binding iterable body =>
    .tagged "foreach" [.string binding, iterable.toJson, .array (Statement.listToJson body)]

/-- The wire forms of a block. -/
def Statement.listToJson : List Statement → List Json
  | [] => []
  | statement :: statements => statement.toJson :: Statement.listToJson statements

end

/-- The wire form of a program. -/
def Program.toJson (program : Program) : Json :=
  .array (Statement.listToJson program.statements)

namespace Wire

open Json Json.Reader

/-- Reads the operand at a place of a list that must have `count` operands. -/
def operand {α : Type} (count index : Nat) (reader : Reader α) : Reader α := do
  if ← hasItem (index == 0) then reader
  else throw (.shape (.wrongLength index count))

/-- Reads a list of exactly one operand. -/
def single {α : Type} (depth : Nat) (first : Nat → Reader α) : Reader α := do
  openArray (.operands 1)
  nested depth fun depth => do
    let a ← operand 1 0 (first depth)
    close ']'
    return a

/-- Reads a list of exactly two operands. -/
def pair {α β : Type} (depth : Nat) (first : Nat → Reader α) (second : Nat → Reader β) :
    Reader (α × β) := do
  openArray (.operands 2)
  nested depth fun depth => do
    let a ← operand 2 0 (first depth)
    let b ← operand 2 1 (second depth)
    close ']'
    return (a, b)

/-- Reads a list of exactly three operands. -/
def triple {α β γ : Type} (depth : Nat) (first : Nat → Reader α) (second : Nat → Reader β)
    (third : Nat → Reader γ) : Reader (α × β × γ) := do
  openArray (.operands 3)
  nested depth fun depth => do
    let a ← operand 3 0 (first depth)
    let b ← operand 3 1 (second depth)
    let c ← operand 3 2 (third depth)
    close ']'
    return (a, b, c)

/-- Reads a list of any length. -/
def sequence {α : Type} (item : Nat → Reader α) (depth : Nat) : Reader (List α) := do
  openArray .array
  nested depth fun depth => items (item depth)

/-- Reads a node: an object with one key, whose value is read by the reader for that key. -/
def node {α : Type} (kind : String) (depth : Nat) (body : String → Nat → Reader α) :
    Reader α := do
  openObject (.node kind)
  nested depth fun depth => do
    if ← hasKey true then
      let tag ← string
      let result ← body tag depth
      if ← hasKey false then
        let _ ← string
        throw (.shape (.extraKey kind))
      close '\x7d'
      return result
    else throw (.shape (.missingTag kind))

/-- The error for a tag that no node of the kind has. -/
def unknownTag (kind tag : String) : ReadError :=
  .shape (.unknownTag kind tag)

/-- Reads the operands of an expression with the given tag. -/
def expressionBody (inner : Nat → Reader Expr) (tag : String) (depth : Nat) : Reader Expr :=
  match tag with
  | "number" => do colon; return .number (← single depth fun _ => number)
  | "string" => do colon; return .string (← single depth fun _ => string)
  | "boolean" => do colon; return .boolean (← single depth fun _ => boolean)
  | "array" => do colon; return .array (← sequence inner depth)
  | "var" => do colon; return .var (← single depth fun _ => string)
  | "prop" => do
    colon
    let (base, name) ← pair depth inner fun _ => string
    return .property base name
  | "call" => do
    colon
    let (base, name, args) ← triple depth inner (fun _ => string) (sequence inner)
    return .method base name args
  | "func" => do
    colon
    let (name, args) ← pair depth (fun _ => string) (sequence inner)
    return .call name args
  | "not" => do colon; return .not (← single depth inner)
  | tag =>
    match Operator.ofSymbol? tag with
    | some operator => do
      colon
      let (left, right) ← pair depth inner inner
      return .binary operator left right
    | none => throw (unknownTag "expression" tag)

/-- Reads an expression whose parts nest at most `bound` deep. -/
def expressionWithin : (bound : Nat) → (depth : Nat) → Reader Expr
  | 0, _ => throw .malformed
  | bound + 1, depth => node "expression" depth (expressionBody (expressionWithin bound))

/-- Reads an expression. Each nested part spends levels of the budget, so the budget bounds the
nesting. -/
def expression (depth : Nat) : Reader Expr :=
  expressionWithin (depth + 1) depth

/-- Reads the operands of a statement with the given tag. -/
def statementBody (inner : Nat → Reader Statement) (tag : String) (depth : Nat) :
    Reader Statement :=
  match tag with
  | "=" => do
    colon
    let (target, value) ← pair depth expression expression
    match target with
    | .var name => return .assign name value
    | other => throw (.shape (.wrongTarget other.tag))
  | "func" => do
    colon
    let (name, args) ← pair depth (fun _ => string) (sequence expression)
    return .call name args
  | "call" => do
    colon
    let (base, name, args) ← triple depth expression (fun _ => string) (sequence expression)
    return .method base name args
  | "if" => do
    colon
    let (test, consequent, alternative) ←
      triple depth expression (sequence inner) (sequence inner)
    return .branch test consequent alternative
  | "foreach" => do
    colon
    let (binding, iterable, body) ← triple depth (fun _ => string) expression (sequence inner)
    return .forEach binding iterable body
  | tag => throw (unknownTag "statement" tag)

/-- Reads a statement whose parts nest at most `bound` deep. -/
def statementWithin : (bound : Nat) → (depth : Nat) → Reader Statement
  | 0, _ => throw .malformed
  | bound + 1, depth => node "statement" depth (statementBody (statementWithin bound))

/-- Reads a statement. -/
def statement (depth : Nat) : Reader Statement :=
  statementWithin (depth + 1) depth

/-- Reads a list of statements. -/
def program (depth : Nat) : Reader Program := do
  return ⟨← sequence statement depth⟩

end Wire

namespace Program

/-- The wire text of a program without blanks. -/
def encode (program : Program) : String :=
  program.toJson.compact

/-- The wire text of a program with one item a line. -/
def encodePretty (program : Program) : String :=
  program.toJson.pretty

/-- Reads a program from its wire text. -/
def decode (text : String) : Except Json.ReadError Program :=
  Json.Reader.document (Wire.program Json.depthLimit) text

/-- The message of a shape error in the wire text of a program. -/
def decodeMessage (error : Json.ShapeError) : String :=
  "invalid program encoding: " ++ error.message

end Program

end HostScript
