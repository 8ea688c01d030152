import HostScript.RunError
import HostScript.Text.Quoted

/-!
# Host functions

Programs call functions of their host by name. A host function gets the values of the arguments and
the context, which it may change, and gives a value or an error. A function may declare the number
of its arguments, which is then checked before it runs. Nothing here depends on what a context is.
-/

namespace HostScript

/-- A function of the host over contexts of type `σ`. -/
structure HostFunction (σ : Type) where
  arity : Option Nat
  body : List Value → σ → Except HostError Value × σ

/-- The functions of a host by name. -/
abbrev HostTable (σ : Type) := Dictionary (HostFunction σ)

namespace HostTable

variable {σ : Type}

/-- Calls the function of a name, if there is one. With a number of arguments other than the
declared one the function does not run and the context stays as it is. -/
def call? (table : HostTable σ) (name : String) (args : List Value) (context : σ) :
    Option (Except HostError Value × σ) := do
  let function ← table.get? name
  match function.arity with
  | some arity =>
    if arity = args.length then return function.body args context
    else return (.error (.arity name arity args.length), context)
  | none => return function.body args context

/-- The names of the functions in words. -/
def summary (table : HostTable σ) : String :=
  "HostFunctions \x7b names: " ++ Text.quoteList table.keys ++ " \x7d"

end HostTable

namespace HostFunction

variable {σ : Type}

/-- The argument at a place. -/
def argument (args : List Value) (index : Nat) : Except HostError Value :=
  match args[index]? with
  | some value => .ok value
  | none => .error (.missing index)

/-- The argument at a place, which must be of some kind. -/
def typedArgument {α : Type} (wanted : String) (select : Value → Option α) (args : List Value)
    (index : Nat) : Except HostError α := do
  let value ← argument args index
  match select value with
  | some found => return found
  | none => throw (.argument index wanted value)

/-- The argument at a place, which must be a number. -/
def numberArgument : List Value → Nat → Except HostError Binary64 :=
  typedArgument "a number" Value.number?

/-- The argument at a place, which must be a string. -/
def stringArgument : List Value → Nat → Except HostError String :=
  typedArgument "a string" Value.string?

/-- The argument at a place, which must be a truth value. -/
def booleanArgument : List Value → Nat → Except HostError Bool :=
  typedArgument "a boolean" Value.boolean?

/-- The argument at a place, which must be an array. -/
def arrayArgument : List Value → Nat → Except HostError (List Value) :=
  typedArgument "an array" Value.array?

/-- A function that only reads the context. -/
def reading (body : List Value → σ → Except HostError Value) : HostFunction σ where
  arity := none
  body args context := (body args context, context)

/-- A function that leaves the context as it is when it fails. -/
def updating (body : List Value → σ → Except HostError (Value × σ)) : HostFunction σ where
  arity := none
  body args context :=
    match body args context with
    | .ok (value, changed) => (.ok value, changed)
    | .error error => (.error error, context)

/-- The same function with a declared number of arguments. -/
def withArity (arity : Nat) (function : HostFunction σ) : HostFunction σ :=
  { function with arity := some arity }

end HostFunction

end HostScript
