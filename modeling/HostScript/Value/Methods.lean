import HostScript.Pattern.Parser
import HostScript.RunError
import HostScript.Text.Case
import HostScript.Text.Search
import HostScript.Value.Text

/-!
# Properties and methods of values

What a property or a method means is decided by the kind of the value alone. Surplus arguments are
ignored.
-/

namespace HostScript.Value

/-- Reads a property: the length of an array or a string, or an entry of an object, where an entry
that is not there reads as the missing value. -/
def property (base : Value) (name : String) : Except RunError Value :=
  match base, name with
  | .object entries, _ => .ok ((entries.lookup name).getD .null)
  | .array items, "length" => .ok (.number (.ofNat items.length))
  | .string text, "length" => .ok (.number (.ofNat text.length))
  | _, _ => .error (.unknownProperty base.kind name)

/-! ## Arguments -/

/-- The first argument. -/
def firstArgument (method : String) : List Value → Except RunError Value
  | [] => .error (.methodArgument method .missingArgument)
  | first :: _ => .ok first

/-- The first argument, which must be a string. -/
def stringArgument (method : String) (args : List Value) : Except RunError (List Char) := do
  match ← firstArgument method args with
  | .string text => return text.toList
  | other => throw (.methodArgument method (.notString other.kind))

/-- The items as numbers. -/
def numbers (method : String) : List Value → Except RunError (List Binary64)
  | [] => .ok []
  | .number value :: items => do return value :: (← numbers method items)
  | item :: _ => .error (.methodArgument method (.notNumeric item.kind))

/-! ## Arrays -/

/-- The sum from left to right, starting at the negative zero. -/
def sum (items : List Binary64) : Binary64 :=
  items.foldl (· + ·) (.zero true)

/-- The item that is kept when each item in turn replaces the kept one if it compares as wanted. -/
def extreme (wanted : Ordering) : List Binary64 → Option Binary64
  | [] => none
  | first :: items =>
    some (items.foldl (fun best item => if item.compare? best = some wanted then item else best)
      first)

/-- The smallest or the largest number, or the missing value. -/
def extremeValue (wanted : Ordering) (items : List Binary64) : Value :=
  ((extreme wanted items).map Value.number).getD .null

/-- Whether a list has an item that equals a value. -/
def hasItem (items : List Value) (value : Value) : Bool :=
  items.any fun item => item.equals value

/-- Each item that equals none of the items kept before it. -/
def unique (items : List Value) : List Value :=
  items.foldl (fun kept item => if hasItem kept item then kept else kept ++ [item]) []

/-- Whether a value may stand before another one in a sorted list. -/
def sortsBefore : Value → Value → Bool
  | .number left, .number right => left.totalOrder right != .gt
  | .string left, .string right => decide (left ≤ right)
  | _, _ => true

/-- The items in increasing order: numbers by the total order of doubles, strings by code points. -/
def sort (items : List Value) : Except RunError Value :=
  if items.all (·.number?.isSome) || items.all (·.string?.isSome) then
    .ok (.array (items.mergeSort sortsBefore))
  else .error (.methodArgument "sort" .mixedItems)

/-- The texts of the items with a separator between them. -/
def join (separator : List Char) (items : List Value) : Value :=
  .string (String.ofList (separator.intercalate (items.map fun item => item.joinText.toList)))

/-- The methods of arrays. -/
def arrayMethod (items : List Value) (method : String) (args : List Value) :
    Except RunError Value :=
  match method with
  | "count" | "length" => .ok (.number (.ofNat items.length))
  | "first" => .ok (items.head?.getD .null)
  | "last" => .ok (items.getLast?.getD .null)
  | "sum" => do return .number (sum (← numbers "sum" items))
  | "min" => do return extremeValue .lt (← numbers "min" items)
  | "max" => do return extremeValue .gt (← numbers "max" items)
  | "reverse" => .ok (.array items.reverse)
  | "unique" => .ok (.array (unique items))
  | "sort" => sort items
  | "contains" => do return .boolean (hasItem items (← firstArgument "contains" args))
  | "join" =>
    if args.isEmpty then .ok (join [','] items)
    else do return join (← stringArgument "join" args) items
  | _ => .error (.unknownMethod .array method)

/-! ## Strings -/

/-- Whether the pattern of a text occurs in a string. -/
def matchesPattern (text pattern : List Char) : Except RunError Value :=
  match Pattern.ofString? (String.ofList pattern) with
  | some pattern => .ok (.boolean (pattern.occursIn text))
  | none => .error (.methodArgument "matches" .invalidPattern)

/-- A list of strings. -/
def ofTexts (texts : List (List Char)) : Value :=
  .array (texts.map fun text => .string (String.ofList text))

/-- The methods of strings. -/
def stringMethod (text : List Char) (method : String) (args : List Value) :
    Except RunError Value :=
  match method with
  | "length" => .ok (.number (.ofNat text.length))
  | "upper" => .ok (.string (String.ofList (Text.upper text)))
  | "lower" => .ok (.string (String.ofList (Text.lower text)))
  | "trim" => .ok (.string (String.ofList (Text.trim text)))
  | "contains" => do return .boolean (Text.contains (← stringArgument "contains" args) text)
  | "startswith" => do return .boolean ((← stringArgument "startswith" args).isPrefixOf text)
  | "endswith" => do return .boolean ((← stringArgument "endswith" args).isSuffixOf text)
  | "split" => do return ofTexts (Text.split (← stringArgument "split" args) text)
  | "matches" => do matchesPattern text (← stringArgument "matches" args)
  | _ => .error (.unknownMethod .string method)

/-! ## Objects -/

/-- The methods of objects. -/
def objectMethod (entries : List (String × Value)) (method : String) (args : List Value) :
    Except RunError Value :=
  match method with
  | "keys" => .ok (.array (entries.map fun entry => .string entry.1))
  | "values" => .ok (.array (entries.map fun entry => entry.2))
  | "has" => do
    let key ← stringArgument "has" args
    return .boolean (entries.lookup (String.ofList key)).isSome
  | _ => .error (.unknownMethod .object method)

/-- Calls a method of a value. Every value tells its kind. -/
def invoke (receiver : Value) (method : String) (args : List Value) : Except RunError Value :=
  if method = "type" then .ok (.string receiver.kind.name)
  else match receiver with
    | .array items => arrayMethod items method args
    | .string text => stringMethod text.toList method args
    | .object entries => objectMethod entries method args
    | other => .error (.unknownMethod other.kind method)

/-- Arrays answer all methods but the one that all values have. -/
theorem invoke_array {method : String} (h : method ≠ "type") (items args : List Value) :
    (Value.array items).invoke method args = arrayMethod items method args :=
  if_neg h

/-- Strings answer all methods but the one that all values have. -/
theorem invoke_string {method : String} (h : method ≠ "type") (text : String) (args : List Value) :
    (Value.string text).invoke method args = stringMethod text.toList method args :=
  if_neg h

end HostScript.Value
