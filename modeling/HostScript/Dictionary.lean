/-!
# Dictionaries

A dictionary maps texts to values. Its entries are kept in increasing order of their keys, which
have the order of their code points, so each dictionary has one form only. The functions on plain
lists of entries are also used where a list cannot carry its order, inside nested values.
-/

namespace HostScript

namespace Entries

variable {α : Type}

/-- The order of entries by their keys. -/
def Precedes (left right : String × α) : Prop :=
  left.1 < right.1

/-- Entries in strictly increasing order of their keys. -/
def Sorted (entries : List (String × α)) : Prop :=
  entries.Pairwise Precedes

/-- Binds a key to a value, in place of an older binding of that key. -/
def insert (key : String) (value : α) : List (String × α) → List (String × α)
  | [] => [(key, value)]
  | (first, old) :: others =>
    if key < first then (key, value) :: (first, old) :: others
    else if key = first then (key, value) :: others
    else (first, old) :: insert key value others

/-- Removes a key. -/
def erase (key : String) (entries : List (String × α)) : List (String × α) :=
  entries.filter fun entry => entry.1 != key

/-- The entries of a list in which a later entry replaces an earlier one of the same key. -/
def ofList (entries : List (String × α)) : List (String × α) :=
  entries.foldl (fun result entry => insert entry.1 entry.2 result) []

/-- After an insertion an entry is the new one or an older one. -/
theorem eq_or_mem_of_mem_insert {key : String} {value : α} {entry : String × α}
    {entries : List (String × α)} (member : entry ∈ insert key value entries) :
    entry = (key, value) ∨ entry ∈ entries := by
  induction entries with
  | nil => simpa [insert] using member
  | cons first others ih =>
    obtain ⟨firstKey, old⟩ := first
    simp only [insert] at member
    split at member
    · simpa using member
    · split at member
      · rcases List.mem_cons.1 member with equal | inOthers
        · exact .inl equal
        · exact .inr (List.mem_cons_of_mem _ inOthers)
      · rcases List.mem_cons.1 member with equal | inOthers
        · exact .inr (equal ▸ List.mem_cons_self)
        · rcases ih inOthers with equal | older
          · exact .inl equal
          · exact .inr (List.mem_cons_of_mem _ older)

/-- Insertion keeps the order. -/
theorem sorted_insert {key : String} {value : α} {entries : List (String × α)}
    (sorted : Sorted entries) : Sorted (insert key value entries) := by
  induction entries with
  | nil => simp [insert, Sorted]
  | cons first others ih =>
    obtain ⟨firstKey, old⟩ := first
    have afterFirst : ∀ entry ∈ others, firstKey < entry.1 := fun _ member =>
      List.rel_of_pairwise_cons sorted member
    have othersSorted : Sorted others := List.Pairwise.of_cons sorted
    simp only [insert]
    split
    · rename_i before
      refine List.Pairwise.cons (fun entry member => ?_) sorted
      rcases List.mem_cons.1 member with equal | inOthers
      · exact equal ▸ before
      · exact String.lt_trans before (afterFirst entry inOthers)
    · split
      · rename_i equal
        exact List.Pairwise.cons (fun entry member => equal ▸ afterFirst entry member) othersSorted
      · rename_i notBefore notEqual
        refine List.Pairwise.cons (fun entry member => ?_) (ih othersSorted)
        rcases eq_or_mem_of_mem_insert member with equal | inOthers
        · subst equal
          exact String.not_le.1 fun keyLe =>
            notEqual (String.le_antisymm keyLe (String.not_lt.1 notBefore))
        · exact afterFirst entry inOthers

/-- Removal keeps the order. -/
theorem sorted_erase {key : String} {entries : List (String × α)} (sorted : Sorted entries) :
    Sorted (erase key entries) :=
  List.Pairwise.filter _ sorted

end Entries

/-- A dictionary: entries in strictly increasing order of their keys. -/
structure Dictionary (α : Type) where
  entries : List (String × α)
  sorted : Entries.Sorted entries

namespace Dictionary

variable {α : Type}

/-- The dictionary without entries. -/
def empty : Dictionary α :=
  ⟨[], List.Pairwise.nil⟩

instance : EmptyCollection (Dictionary α) := ⟨empty⟩

instance : Inhabited (Dictionary α) := ⟨empty⟩

/-- The value of a key. -/
def get? (dictionary : Dictionary α) (key : String) : Option α :=
  dictionary.entries.lookup key

/-- Whether a key has a value. -/
def contains (dictionary : Dictionary α) (key : String) : Bool :=
  (dictionary.get? key).isSome

/-- Binds a key to a value. -/
def insert (dictionary : Dictionary α) (key : String) (value : α) : Dictionary α :=
  ⟨Entries.insert key value dictionary.entries, Entries.sorted_insert dictionary.sorted⟩

/-- Removes a key. -/
def erase (dictionary : Dictionary α) (key : String) : Dictionary α :=
  ⟨Entries.erase key dictionary.entries, Entries.sorted_erase dictionary.sorted⟩

/-- The dictionary of a list of entries, a later entry replacing an earlier one of the same key. -/
def ofList (entries : List (String × α)) : Dictionary α :=
  entries.foldl (fun dictionary entry => dictionary.insert entry.1 entry.2) empty

/-- The keys in increasing order. -/
def keys (dictionary : Dictionary α) : List String :=
  dictionary.entries.map (·.1)

/-- The number of keys. -/
def size (dictionary : Dictionary α) : Nat :=
  dictionary.entries.length

/-- Whether there are no keys. -/
def isEmpty (dictionary : Dictionary α) : Bool :=
  dictionary.entries.isEmpty

end Dictionary

end HostScript
