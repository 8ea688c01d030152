import HostScript.Value.Text

/-!
# The context of a run

The context is what host functions read and write and what a run leaves behind. Programs have no
access to it of their own.
-/

namespace HostScript

/-- A context: values by name. -/
abbrev Context := Dictionary Value

namespace Context

/-- The context as an object. -/
def toValue (context : Context) : Value :=
  .object context.entries

/-- The JSON text of a context. -/
def text (context : Context) : String :=
  context.toValue.text

/-- The entries of a context as the JSON text of an object. -/
def serialize (context : Context) : String :=
  String.ofList ('\x7b' :: Value.writeEntries true context.entries [])

/-- Equality of contexts, numbers being compared by value. -/
def equals (left right : Context) : Bool :=
  Value.entriesEqual left.entries right.entries

/-- Changes the value of a name that has one. -/
def replace? (context : Context) (key : String) (value : Value) : Option Context :=
  if context.contains key then some (context.insert key value) else none

/-- Reads the entries of a context. -/
def reader : Json.Reader Context := do
  Json.Reader.openObject .object
  Json.Reader.nested Json.depthLimit fun depth => do
    let entries ← Json.Reader.entries (Json.Reader.value depth)
    return .ofList (Value.entriesOfJson entries)

/-- Reads a context from JSON text, which must be an object. -/
def parse (source : String) : Except Json.ReadError Context :=
  Json.Reader.document reader source

end Context

end HostScript
