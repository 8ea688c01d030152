import HostScript.Context
import HostScript.Machine.Basic

/-!
# One run of a program

A run starts without variables, and only the context is left of it.
-/

namespace HostScript.Program

/-- The outcome of a run and its events. -/
structure Outcome where
  result : Except RunError Context
  events : List Event

/-- Runs a program from a context. -/
def trace (program : Program) (table : HostTable Context) (context : Context) : Outcome :=
  let started := Event.runStarted program.statements.length context.size
  match Machine.run table program (.start context) with
  | (.ok (), machine) =>
    ⟨.ok machine.context,
      started :: machine.events.toList ++ [.runFinished machine.context.size]⟩
  | (.error error, machine) =>
    ⟨.error error, started :: machine.events.toList ++ [.runFailed error]⟩

/-- The context that a run leaves, or why it failed. -/
def run (program : Program) (table : HostTable Context) (context : Context) :
    Except RunError Context :=
  (program.trace table context).result

end HostScript.Program
