import HostScript.Context
import HostScript.Host.Basic

/-!
# A stock of host functions

Ready-made functions over contexts that are dictionaries: reading and writing entries, keeping a
running total, collecting calls, and checking arguments.
-/

namespace HostScript.HostFunction

/-- The argument at a place, the missing value when it is not there. -/
def argumentOrNull (args : List Value) (index : Nat) : Value :=
  args[index]?.getD .null

/-- Binds the name in the first argument to the second argument and gives the older value. -/
def set : HostFunction Context := updating fun args context => do
  let key ← stringArgument args 0
  return ((context.get? key).getD .null, context.insert key (argumentOrNull args 1))

/-- The value of the name in the first argument. -/
def get : HostFunction Context := reading fun args context => do
  let key ← stringArgument args 0
  return (context.get? key).getD .null

/-- Removes the name in the first argument and gives its value. -/
def remove : HostFunction Context := updating fun args context => do
  let key ← stringArgument args 0
  return ((context.get? key).getD .null, context.erase key)

/-- Whether the name in the first argument has a value. -/
def hasKey : HostFunction Context := reading fun args context => do
  let key ← stringArgument args 0
  return .boolean (context.contains key)

/-- The number of names that have a value. -/
def size : HostFunction Context := reading fun _ context =>
  return .number (.ofNat context.size)

/-- Adds the first argument to the running total and gives the new total. -/
def addToTotal : HostFunction Context := updating fun args context => do
  let amount ← numberArgument args 0
  let total := ((context.get? "total").bind Value.number?).getD 0 + amount
  return (.number total, context.insert "total" (.number total))

/-- Appends the second argument to the array under the name in the first argument, which is made if
it is not there. -/
def push : HostFunction Context := updating fun args context => do
  let key ← stringArgument args 0
  let item := argumentOrNull args 1
  match context.get? key with
  | none => return (.null, context.insert key (.array [item]))
  | some (.array items) => return (.null, context.insert key (.array (items ++ [item])))
  | some other => throw (.argument 0 "an array key" other)

/-- Appends the array of all arguments to the log. -/
def log : HostFunction Context := updating fun args context =>
  let entries := ((context.get? "log").bind Value.array?).getD []
  return (.null, context.insert "log" (.array (entries ++ [.array args])))

/-- The first argument. -/
def echo : HostFunction Context := reading fun args _ =>
  return argumentOrNull args 0

/-- The array of all arguments. -/
def list : HostFunction Context := reading fun args _ =>
  return .array args

/-- The missing value. -/
def null : HostFunction Context := reading fun _ _ =>
  return .null

/-- The whole context as an object. -/
def dump : HostFunction Context := reading fun _ context =>
  return context.toValue

/-- The entries of an object whose keys and values alternate in the arguments from a place on. -/
def alternating (index : Nat) : List Value → Except HostError (List (String × Value))
  | [] => .ok []
  | .string key :: [] => .ok [(key, .null)]
  | .string key :: value :: others => do return (key, value) :: (← alternating (index + 2) others)
  | other :: _ => .error (.argument index "a string" other)

/-- The object whose keys and values alternate in the arguments. -/
def object : HostFunction Context := reading fun args _ => do
  return .object (Entries.ofList (← alternating 0 args))

/-- The first argument, which must be a number. -/
def number : HostFunction Context := reading fun args _ => do
  return .number (← numberArgument args 0)

/-- The first argument, which must be a string. -/
def string : HostFunction Context := reading fun args _ => do
  return .string (← stringArgument args 0)

/-- The first argument, which must be a truth value. -/
def boolean : HostFunction Context := reading fun args _ => do
  return .boolean (← booleanArgument args 0)

/-- The length of the second argument, which must be an array. -/
def arrayLength : HostFunction Context := reading fun args _ => do
  return .number (.ofNat (← arrayArgument args 1).length)

/-- Fails with the message in the first argument. -/
def failing : HostFunction Context := reading fun args _ => do
  throw ⟨← stringArgument args 0⟩

/-- The same value at every call. -/
def constant (value : Value) : HostFunction Context := reading fun _ _ =>
  return value

/-- The ready-made functions under their usual names. -/
def stock : List (String × HostFunction Context) :=
  [("set", set), ("get", get), ("remove", remove), ("haskey", hasKey), ("size", size),
   ("add", addToTotal), ("push", push), ("log", log), ("echo", echo), ("list", list),
   ("null", null), ("dump", dump), ("obj", object), ("num", number), ("str", string),
   ("bool", boolean), ("arr", arrayLength), ("fail", failing)]

/-- A table of all ready-made functions, and of three logging functions with a declared number of
arguments. -/
def stockTable : HostTable Context :=
  .ofList (stock ++
    [("zero", log.withArity 0), ("one", log.withArity 1), ("pair", log.withArity 2)])

end HostScript.HostFunction
