import HostScript.RunError
import HostScript.Source.Compile

/-!
# Events

What compiling and running report about themselves, in the order in which it happens.
-/

namespace HostScript

/-- An event. -/
inductive Event where
  | compiled (statements chars : Nat)
  | compileFailed (offset : Nat) (expected : List String)
  | runStarted (statements entries : Nat)
  | executing (tag : String)
  | hostCall (function : String) (args : Nat)
  | runFinished (entries : Nat)
  | runFailed (error : RunError)
deriving DecidableEq, Repr

namespace Event

/-- How much detail an event belongs to. -/
inductive Level where
  | debug
  | trace
deriving DecidableEq, Repr

/-- The name of a level. -/
def Level.name : Level → String
  | .debug => "DEBUG"
  | .trace => "TRACE"

/-- The level of an event: single steps of a run are traced. -/
def level : Event → Level
  | .executing _ => .trace
  | .hostCall _ _ => .trace
  | _ => .debug

/-- The message of an event. -/
def message : Event → String
  | .compiled _ _ => "compiled program"
  | .compileFailed _ _ => "compile failed"
  | .runStarted _ _ => "run started"
  | .executing _ => "exec"
  | .hostCall _ _ => "host call"
  | .runFinished _ => "run finished"
  | .runFailed _ => "run failed"

/-- The details of an event as texts by name. -/
def fields : Event → List (String × String)
  | .compiled statements chars =>
    [("statements", toString statements), ("chars", toString chars)]
  | .compileFailed offset expected =>
    [("offset", toString offset), ("expected", Text.quoteList expected)]
  | .runStarted statements entries =>
    [("statements", toString statements), ("context", toString entries)]
  | .executing tag => [("statement", tag)]
  | .hostCall function args => [("function", function), ("args", toString args)]
  | .runFinished entries => [("context", toString entries)]
  | .runFailed error => [("error", error.message)]

/-- The event of compiling a text. -/
def ofCompilation (source : String) : Except ParseError Program → Event
  | .ok program => .compiled program.statements.length source.length
  | .error error => .compileFailed error.offset error.expected

end Event

end HostScript
