import HostScript.Host.Basic
import HostScript.Machine.Event
import HostScript.Value.Methods
import HostScript.Value.Operators

/-!
# Running programs

The machine holds the variables of a program, the context of its host, and the events of the run.
All variables share one registry, and the variable of a loop keeps its last value. The first error
ends a run and leaves the machine as it was then. The machine never looks into the context, so it
runs over contexts of any type.
-/

namespace HostScript

/-- The state of a run. -/
structure Machine (σ : Type) where
  registry : Dictionary Value
  context : σ
  events : Array Event

namespace Machine

variable {σ : Type}

/-- A machine without variables. -/
def start (context : σ) : Machine σ :=
  ⟨∅, context, #[]⟩

/-- A computation on a machine that may fail; what was changed before a failure stays changed. -/
abbrev Run (σ α : Type) := ExceptT RunError (StateM (Machine σ)) α

/-- Reports an event. -/
def report (event : Event) : Run σ Unit :=
  modify fun machine => { machine with events := machine.events.push event }

/-- Binds a variable. -/
def assign (name : String) (value : Value) : Run σ Unit :=
  modify fun machine => { machine with registry := machine.registry.insert name value }

/-- The value of a variable. -/
def lookup (name : String) : Run σ Value := do
  match (← get).registry.get? name with
  | some value => return value
  | none => throw (.undefinedVariable name)

/-- Calls a host function that must be there, and passes on what it gives. -/
def callHost (table : HostTable σ) (name : String) (args : List Value) : Run σ Value := do
  report (.hostCall name args.length)
  let machine ← get
  match table.call? name args machine.context with
  | none => throw (.unknownFunction name)
  | some (outcome, context) =>
    set { machine with context := context }
    match outcome with
    | .ok value => return value
    | .error error => throw (.host error)

/-- Fails unless the host has a function of a name. -/
def requireFunction (table : HostTable σ) (name : String) : Run σ Unit :=
  if table.contains name then return () else throw (.unknownFunction name)

/-- Passes on a result that needs no machine. -/
def lift {α : Type} (result : Except RunError α) : Run σ α :=
  ExceptT.mk (pure result)

mutual

/-- The value of an expression. Operands and arguments are evaluated from left to right, both
operands of the logical operators included; that a function is there is checked before its arguments
are evaluated. -/
def evaluate (table : HostTable σ) : Expr → Run σ Value
  | .number value => return .number value
  | .string value => return .string value
  | .boolean value => return .boolean value
  | .array elements => do return .array (← evaluateAll table elements)
  | .var name => lookup name
  | .property base name => do lift ((← evaluate table base).property name)
  | .method base name args => do
    let receiver ← evaluate table base
    let args ← evaluateAll table args
    lift (receiver.invoke name args)
  | .call name args => do
    requireFunction table name
    let args ← evaluateAll table args
    callHost table name args
  | .binary operator left right => do
    let left ← evaluate table left
    let right ← evaluate table right
    lift (operator.apply left right)
  | .not operand => do return .boolean !(← evaluate table operand).isTruthy

/-- The values of some expressions from left to right. -/
def evaluateAll (table : HostTable σ) : List Expr → Run σ (List Value)
  | [] => return []
  | expr :: exprs => do
    let value ← evaluate table expr
    return value :: (← evaluateAll table exprs)

end

/-- Runs an action once for each item of an array, in order; any other value has no items. -/
def forEachItem (value : Value) (action : Value → Run σ Unit) : Run σ Unit :=
  match value with
  | .array items => items.forM action
  | _ => return ()

mutual

/-- Executes a statement. A loop runs over the items that its array had at the start. -/
def execute (table : HostTable σ) : Statement → Run σ Unit
  | .assign name value => do assign name (← evaluate table value)
  | .call name args => discard (evaluate table (.call name args))
  | .method base name args => discard (evaluate table (.method base name args))
  | .branch test consequent alternative => do
    if (← evaluate table test).isTruthy then executeAll table consequent
    else executeAll table alternative
  | .forEach binding iterable body => do
    let value ← evaluate table iterable
    forEachItem value fun item => do
      assign binding item
      executeAll table body

/-- Executes statements in order, each of which is reported first. -/
def executeAll (table : HostTable σ) : List Statement → Run σ Unit
  | [] => return ()
  | statement :: statements => do
    report (.executing statement.tag)
    execute table statement
    executeAll table statements

end

/-- Executes a program on a machine, which keeps its variables and its context. -/
def run (table : HostTable σ) (program : Program) (machine : Machine σ) :
    Except RunError Unit × Machine σ :=
  (executeAll table program.statements).run machine

end Machine

end HostScript
