import HostScript.Dictionary
import Mathlib.Logic.Function.Basic

/-!
# What dictionaries bind

The value of a key after a binding is made (`get?_insert`), after all values are changed
(`get?_mapValues`) and after all keys are changed (`get?_mapKeys`). A dictionary is determined by
what it binds (`ext_get?`).
-/

namespace HostScript

variable {α β : Type}

namespace Entries

/-- A lookup finds the first entry or goes on with the others. -/
theorem lookup_cons (key : String) (value : α) (entries : List (String × α)) (other : String) :
    ((key, value) :: entries).lookup other =
      if other = key then some value else entries.lookup other := by
  rw [List.lookup_cons]
  by_cases h : other = key
  · rw [if_pos h, beq_iff_eq.2 h]
  · rw [if_neg h, beq_eq_false_iff_ne.2 h]

/-- An inserted key has its value, and all other keys have the values that they had. -/
theorem lookup_insert (key : String) (value : α) (entries : List (String × α)) (other : String) :
    (insert key value entries).lookup other =
      if other = key then some value else entries.lookup other := by
  induction entries with
  | nil => exact lookup_cons key value [] other
  | cons first entries ih =>
      obtain ⟨firstKey, old⟩ := first
      unfold insert
      split
      · exact lookup_cons key value _ other
      · split
        · rename_i _ hsame
          subst hsame
          rw [lookup_cons, lookup_cons]
          by_cases h : other = key
          · rw [if_pos h, if_pos h]
          · rw [if_neg h, if_neg h, if_neg h]
        · rename_i _ hdifferent
          rw [lookup_cons, lookup_cons, ih]
          by_cases h : other = firstKey
          · have hother : other ≠ key := fun hkey => hdifferent (hkey.symm.trans h)
            rw [if_pos h, if_neg hother, if_pos h]
          · rw [if_neg h, if_neg h]

/-- The value of a key does not depend on how the values of other keys are changed. -/
theorem lookup_map (f : String → α → β) (entries : List (String × α)) (key : String) :
    (entries.map fun entry => (entry.1, f entry.1 entry.2)).lookup key =
      (entries.lookup key).map (f key) := by
  induction entries with
  | nil => rfl
  | cons first entries ih =>
      obtain ⟨firstKey, value⟩ := first
      rw [List.map_cons, lookup_cons, lookup_cons, ih]
      by_cases h : key = firstKey
      · subst h
        rw [if_pos rfl, if_pos rfl, Option.map_some]
      · rw [if_neg h, if_neg h]

/-- A key that comes before all others has no value. -/
theorem lookup_eq_none_of_forall_lt {entries : List (String × α)} {key : String}
    (h : ∀ entry ∈ entries, key < entry.1) : entries.lookup key = none := by
  induction entries with
  | nil => rfl
  | cons first entries ih =>
      obtain ⟨hfirst, hothers⟩ := List.forall_mem_cons.1 h
      rw [lookup_cons, if_neg (Std.ne_of_lt hfirst), ih hothers]

/-- The first key of the one is not after the first key of the other, if they bind the same. -/
theorem not_lt_of_lookup_eq {left right : List (String × α)} {key other : String} {value old : α}
    (hsorted : Sorted ((other, old) :: right))
    (h : ((key, value) :: left).lookup key = ((other, old) :: right).lookup key) :
    ¬ key < other := by
  intro hlt
  have hafter : ∀ entry ∈ (other, old) :: right, key < entry.1 :=
    List.forall_mem_cons.2 ⟨hlt, fun entry hentry =>
      String.lt_trans hlt (List.rel_of_pairwise_cons hsorted hentry)⟩
  rw [lookup_cons, if_pos rfl, lookup_eq_none_of_forall_lt hafter] at h
  cases h

/-- Entries in order are determined by the values of all keys. -/
theorem eq_of_lookup {left right : List (String × α)} (hleft : Sorted left) (hright : Sorted right)
    (h : ∀ key, left.lookup key = right.lookup key) : left = right := by
  induction left generalizing right with
  | nil =>
      cases right with
      | nil => rfl
      | cons first right =>
          have hnone := h first.1
          rw [show first = (first.1, first.2) from rfl, lookup_cons, if_pos rfl] at hnone
          cases hnone
  | cons first left ih =>
      obtain ⟨key, value⟩ := first
      cases right with
      | nil =>
          have hnone := h key
          rw [lookup_cons, if_pos rfl] at hnone
          cases hnone
      | cons other right =>
          obtain ⟨otherKey, otherValue⟩ := other
          obtain rfl : key = otherKey := Std.le_antisymm
            (Std.not_lt.1 (not_lt_of_lookup_eq hleft (h otherKey).symm))
            (Std.not_lt.1 (not_lt_of_lookup_eq hright (h key)))
          have hvalue := h key
          rw [lookup_cons, lookup_cons, if_pos rfl, if_pos rfl] at hvalue
          -- The key itself is bound by neither of the rests.
          have hothers : left = right := by
            refine ih (List.Pairwise.of_cons hleft) (List.Pairwise.of_cons hright) fun name => ?_
            by_cases hname : name = key
            · subst hname
              rw [lookup_eq_none_of_forall_lt fun _ => List.rel_of_pairwise_cons hleft,
                lookup_eq_none_of_forall_lt fun _ => List.rel_of_pairwise_cons hright]
            · have hsame := h name
              rwa [lookup_cons, lookup_cons, if_neg hname, if_neg hname] at hsame
          rw [Option.some.inj hvalue, hothers]

/-- A key that comes after all others is bound at the end. -/
theorem insert_of_forall_lt {entries : List (String × α)} {key : String}
    (h : ∀ entry ∈ entries, entry.1 < key) (value : α) :
    insert key value entries = entries ++ [(key, value)] := by
  induction entries with
  | nil => rfl
  | cons first entries ih =>
      obtain ⟨hfirst, hothers⟩ := List.forall_mem_cons.1 h
      unfold insert
      rw [if_neg (Std.not_lt.2 (Std.le_of_lt hfirst)), if_neg (Std.ne_of_lt hfirst).symm,
        ih hothers]
      rfl

/-- Entries in order are those that they are the list of. -/
theorem ofList_of_sorted {entries : List (String × α)} (h : Sorted entries) :
    ofList entries = entries := by
  suffices hfold : ∀ before : List (String × α), Sorted (before ++ entries) →
      entries.foldl (fun result entry => insert entry.1 entry.2 result) before =
        before ++ entries from hfold [] h
  clear h
  induction entries with
  | nil => exact fun before _ => (List.append_nil before).symm
  | cons entry entries ih =>
      intro before hsorted
      have hbefore : ∀ older ∈ before, older.1 < entry.1 := fun older holder =>
        (List.pairwise_append.1 hsorted).2.2 older holder entry List.mem_cons_self
      have happend : before ++ entry :: entries = before ++ [entry] ++ entries := by simp
      rw [List.foldl_cons, insert_of_forall_lt hbefore, happend]
      exact ih (before ++ [entry]) (happend ▸ hsorted)

/-- A key that is changed in one way only has the value that it had. -/
theorem lookup_mapKeys {f : String → String} (hf : Function.Injective f)
    (entries : List (String × α)) (key : String) :
    (entries.map fun entry => (f entry.1, entry.2)).lookup (f key) = entries.lookup key := by
  induction entries with
  | nil => rfl
  | cons first entries ih =>
      rw [List.map_cons, lookup_cons, show first = (first.1, first.2) from rfl, lookup_cons, ih]
      simp only [hf.eq_iff]

end Entries

namespace Dictionary

/-- A dictionary of one entry has its key alone. -/
theorem get?_single (key : String) (value : α) (other : String) :
    (ofList [(key, value)]).get? other = if other = key then some value else none :=
  Entries.lookup_cons key value [] other

/-- An insertion changes what its key stands for and nothing else. -/
theorem get?_insert (dictionary : Dictionary α) (key : String) (value : α) (other : String) :
    (dictionary.insert key value).get? other =
      if other = key then some value else dictionary.get? other :=
  Entries.lookup_insert key value dictionary.entries other

/-- The keys of a dictionary are those that it contains. -/
theorem contains_iff_mem_keys {dictionary : Dictionary α} {key : String} :
    dictionary.contains key = true ↔ key ∈ dictionary.keys := by
  unfold contains get? keys
  rw [List.lookup_isSome_iff, List.mem_map]
  simp only [beq_iff_eq, @eq_comm _ key]

/-- The keys of a dictionary are in increasing order. -/
theorem keys_increasing (dictionary : Dictionary α) : dictionary.keys.Pairwise (· < ·) :=
  List.pairwise_map.2 dictionary.sorted

/-- The dictionary with the same keys and other values. -/
def mapValues (f : String → α → β) (dictionary : Dictionary α) : Dictionary β where
  entries := dictionary.entries.map fun entry => (entry.1, f entry.1 entry.2)
  sorted := by exact List.pairwise_map.2 dictionary.sorted

/-- A change of all values leaves the keys. -/
theorem get?_mapValues (f : String → α → β) (dictionary : Dictionary α) (key : String) :
    (dictionary.mapValues f).get? key = (dictionary.get? key).map (f key) :=
  Entries.lookup_map f dictionary.entries key

/-- A dictionary is determined by the values of all keys. -/
theorem ext_get? {left right : Dictionary α} (h : ∀ key, left.get? key = right.get? key) :
    left = right := by
  cases left with
  | mk entries sorted =>
      cases right with
      | mk others otherSorted =>
          obtain rfl : entries = others := Entries.eq_of_lookup sorted otherSorted h
          rfl

/-- The dictionary with the same values under other keys. -/
def mapKeys (f : String → String) (dictionary : Dictionary α) : Dictionary α :=
  dictionary.entries.foldr (fun entry changed => changed.insert (f entry.1) entry.2) ∅

/-- Keys are changed entry by entry. -/
theorem get?_mapKeys_eq_lookup (f : String → String) (dictionary : Dictionary α) (key : String) :
    (dictionary.mapKeys f).get? key =
      (dictionary.entries.map fun entry => (f entry.1, entry.2)).lookup key := by
  unfold mapKeys
  induction dictionary.entries with
  | nil => rfl
  | cons first entries ih =>
      rw [List.foldr_cons, get?_insert, ih, List.map_cons, Entries.lookup_cons]

/-- A changed key has the value that it had. -/
theorem get?_mapKeys {f : String → String} (hf : Function.Injective f)
    (dictionary : Dictionary α) (key : String) :
    (dictionary.mapKeys f).get? (f key) = dictionary.get? key :=
  (get?_mapKeys_eq_lookup f dictionary (f key)).trans
    (Entries.lookup_mapKeys hf dictionary.entries key)

/-- There are no keys but the changed ones. -/
theorem get?_mapKeys_of_forall_ne {f : String → String} {key : String}
    (h : ∀ older, f older ≠ key) (dictionary : Dictionary α) :
    (dictionary.mapKeys f).get? key = none := by
  rw [get?_mapKeys_eq_lookup]
  induction dictionary.entries with
  | nil => rfl
  | cons first entries ih =>
      rw [List.map_cons, Entries.lookup_cons, if_neg (h first.1).symm, ih]

/-- A new binding is one of the changed key. -/
theorem mapKeys_insert {f : String → String} (hf : Function.Injective f)
    (dictionary : Dictionary α) (key : String) (value : α) :
    (dictionary.insert key value).mapKeys f = (dictionary.mapKeys f).insert (f key) value := by
  refine ext_get? fun name => ?_
  by_cases hname : ∃ older, f older = name
  · obtain ⟨older, rfl⟩ := hname
    rw [get?_insert, get?_mapKeys hf, get?_mapKeys hf, get?_insert]
    simp only [hf.eq_iff]
  · have hnone : ∀ older, f older ≠ name := fun older heq => hname ⟨older, heq⟩
    rw [get?_insert, if_neg (hnone key).symm, get?_mapKeys_of_forall_ne hnone,
      get?_mapKeys_of_forall_ne hnone]

end Dictionary

end HostScript
