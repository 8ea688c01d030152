import Mathlib.Data.List.Forall2
import HostScript.Proofs.Json.Tokens

/-!
# Readers that accept documents

A reader accepts a relation if a success means that the relation holds of the text after blanks, and
the other way round wherever a number cannot go on (`Accepts`). Readers of lists accept lists of
what their readers of items accept, so the reader of trees accepts exactly the documents that are
not too deep (`parse_eq_ok_iff`).
-/

namespace HostScript.Json

open Grammar (Blanks)

variable {α β : Type} {text mid start finish rest : List Char}

/-- Blanks and a mark after them do not continue a number. -/
theorem numberEnds_mark {char : Char} (h : Blanks text (char :: rest))
    (hchar : char ∈ [',', ':', ']', '\x7d']) : Reader.NumberEnds text := by
  have hall : ∀ char ∈ [',', ':', ']', '\x7d'],
      (char.isDigit || ['.', 'e', 'E'].contains char) = false := by decide
  obtain ⟨blanks, hblanks, rfl⟩ := h.exists_separators
  exact numberEnds_blanks hblanks (Text.stops_cons.2 (hall char hchar))

/-! ## Lists -/

namespace Listed

variable {close : Char} {R : List Char → List Char → α → Prop}
  {S : List Char → List Char → β → Prop} {D : α → β → Prop} {first : Bool}

/-- What follows an item does not continue a number. -/
theorem numberEnds {items : List α} (h : Listed close R false text rest items)
    (hclose : close ∈ [']', '\x7d']) : Reader.NumberEnds text := by
  cases h with
  | done first text rest hblanks =>
      exact numberEnds_mark hblanks (List.mem_append_right [',', ':'] hclose)
  | next first text start finish rest item items hstart =>
      obtain ⟨after, hcomma, -⟩ := hstart
      exact numberEnds_mark hcomma List.mem_cons_self

/-- Items that stand for others are listed where the others are. -/
theorem exists_iff (hR : ∀ start finish item, R start finish item ↔
      ∃ other, S start finish other ∧ D item other) {items : List α} :
    Listed close R first text rest items ↔
      ∃ others, Listed close S first text rest others ∧ List.Forall₂ D items others := by
  constructor
  · intro h
    induction h with
    | done first text rest hblanks => exact ⟨[], .done _ _ _ hblanks, .nil⟩
    | next first text start finish rest item items hstart hitem _ ih =>
        obtain ⟨other, hother, hD⟩ := (hR _ _ _).1 hitem
        obtain ⟨others, hothers, hall⟩ := ih
        exact ⟨other :: others, .next _ _ _ _ _ _ _ hstart hother hothers, .cons hD hall⟩
  · rintro ⟨others, hothers, hall⟩
    induction hothers generalizing items with
    | done first text rest hblanks =>
        cases hall
        exact .done _ _ _ hblanks
    | next first text start finish rest other others hstart hother _ ih =>
        cases hall with
        | cons hD hall =>
            exact .next _ _ _ _ _ _ _ hstart ((hR _ _ _).2 ⟨other, hother, hD⟩) (ih hall)

end Listed

/-- A value is an array exactly if its text is a bracket with items after it. -/
theorem value_array_iff {trees : List Json} :
    Value start rest (.array trees) ↔
      ∃ inner, start = '[' :: inner ∧ Listed ']' Value true inner rest trees := by
  constructor
  · intro h
    cases h with
    | array inner rest items hitems => exact ⟨inner, rfl, hitems⟩
  · rintro ⟨inner, rfl, hitems⟩
    exact .array _ _ _ hitems

/-- A value is an object exactly if its text is a brace with entries after it. -/
theorem value_object_iff {entries : List (String × Json)} :
    Value start rest (.object entries) ↔
      ∃ inner, start = '\x7b' :: inner ∧ Listed '\x7d' (Entry Value) true inner rest entries := by
  constructor
  · intro h
    cases h with
    | object inner rest entries hentries => exact ⟨inner, rfl, hentries⟩
  · rintro ⟨inner, rfl, hentries⟩
    exact .object _ _ _ hentries

/-- An object fits into a budget if a level is left for it and its entries fit into the rest. -/
theorem depth_entries_le {entries : List (String × Json)} {bound : Nat} :
    (Json.object entries).depth ≤ bound ↔
      0 < bound ∧ ∀ entry ∈ entries, entry.2.depth ≤ bound - 1 := by
  have hall {bound : Nat} : depthEntries entries ≤ bound ↔
      ∀ entry ∈ entries, entry.2.depth ≤ bound := by
    induction entries with
    | nil => simp [depthEntries]
    | cons entry entries ih => rw [depthEntries, Nat.max_le, ih, List.forall_mem_cons]
  rw [depth, ← hall]
  omega

namespace Reader

/-! ## Readers and relations -/

/-- A success of the reader means that the relation holds of the text after blanks, and the reader
succeeds where the relation holds and no number goes on. -/
structure Accepts (reader : Reader α) (R : List Char → List Char → α → Prop) : Prop where
  sound : ∀ {text rest value}, reader text = .ok (value, rest) →
    ∃ start, Blanks text start ∧ R start rest value
  complete : ∀ {text start rest value}, Blanks text start → R start rest value →
    NumberEnds rest → reader text = .ok (value, rest)

/-- What is returned is read from nothing. -/
@[simp] theorem pure_eq_ok {result value : α} :
    (pure result : Reader α) text = .ok (value, rest) ↔ result = value ∧ text = rest := by
  show Except.ok (result, text) = .ok (value, rest) ↔ _
  rw [Except.ok.injEq, Prod.mk.injEq]

/-- An error is no success. -/
@[simp] theorem throw_ne_ok {error : ReadError} {found : α × List Char} :
    (throw error : Reader α) text ≠ .ok found :=
  fun h => nomatch h

/-- A value stands for what is read, and its tree fits into the levels that are left. -/
def Codes (C : α → Json → Prop) (depth : Nat) (start rest : List Char) (value : α) : Prop :=
  ∃ tree, Value start rest tree ∧ tree.depth ≤ depth ∧ C value tree

/-- What stands for a value starts with the first character of one. -/
theorem Codes.starts {C : α → Json → Prop} {depth : Nat} {value : α}
    (h : Codes C depth start rest value) : StartsValue start := by
  obtain ⟨tree, hvalue, -⟩ := h
  exact hvalue.starts

/-- What stands for a value takes at least one character. -/
theorem Codes.shrinks {C : α → Json → Prop} {depth : Nat} {value : α}
    (h : Codes C depth start rest value) : rest.length < start.length := by
  obtain ⟨tree, hvalue, -⟩ := h
  exact hvalue.shrinks

/-- Equivalent meanings are accepted alike. -/
theorem Accepts.congr {reader : Reader α} {C D : α → Json → Prop} {depth : Nat}
    (h : Accepts reader (Codes C depth)) (hiff : ∀ value tree, D value tree ↔ C value tree) :
    Accepts reader (Codes D depth) := by
  rwa [show D = C from funext fun value => funext fun tree => propext (hiff value tree)]

/-! ## Scalars -/

/-- A scalar needs no level. -/
theorem depth_tree? {found : Head} {tree : Json} (h : found.tree? = some tree) :
    tree.depth = 0 := by
  cases found <;> cases h <;> rfl

/-- A reader that checks a head accepts the scalars that pass. -/
theorem scalar_accepts {pick : Head → Reader α} {C : α → Json → Prop} {depth : Nat}
    (hscalar : ∀ value tree, C value tree → ∃ found : Head, found.tree? = some tree)
    (hpick : ∀ found text value rest, pick found text = .ok (value, rest) ↔
      (∃ tree, found.tree? = some tree ∧ C value tree) ∧ text = rest) :
    Accepts (head >>= pick) (Codes C depth) where
  sound {text rest value} h := by
    obtain ⟨found, mid, hhead, hpicked⟩ := bind_success h
    obtain ⟨⟨tree, htree, hC⟩, rfl⟩ := (hpick _ _ _ _).1 hpicked
    obtain ⟨start, hblanks, hopens⟩ := head_sound hhead
    refine ⟨start, hblanks, tree, ?_, by rw [depth_tree? htree]; exact Nat.zero_le _, hC⟩
    cases hopens with
    | scalar start rest found other hother hvalue =>
        obtain rfl := Option.some.inj (htree.symm.trans hother)
        exact hvalue
    | array | object => cases htree
  complete {text start rest value} hblanks hcodes hrest := by
    obtain ⟨tree, hvalue, -, hC⟩ := hcodes
    obtain ⟨found, hfound⟩ := hscalar value tree hC
    rw [bind_ok (head_complete hblanks hfound hvalue hrest)]
    exact (hpick _ _ _ _).2 ⟨⟨tree, hfound, hC⟩, rfl⟩

/-- The reader of numbers accepts the numbers with their doubles. -/
theorem number_accepts (depth : Nat) :
    Accepts number (Codes (fun value tree => ∃ number, tree = .number number ∧
      number.toBinary64 = value) depth) := by
  refine scalar_accepts (fun value tree ⟨number, htree, _⟩ => ⟨.number number, htree ▸ rfl⟩) ?_
  intro found text value rest
  cases found <;> simp [Head.tree?]

/-- The reader of strings accepts the strings. -/
theorem string_accepts (depth : Nat) :
    Accepts string (Codes (fun value tree => tree = .string value) depth) := by
  refine scalar_accepts (fun value tree htree => ⟨.string value, htree ▸ rfl⟩) ?_
  intro found text value rest
  cases found <;> simp [Head.tree?]

/-- The reader of truth values accepts the truth values. -/
theorem boolean_accepts (depth : Nat) :
    Accepts boolean (Codes (fun value tree => tree = .boolean value) depth) := by
  refine scalar_accepts (fun value tree htree => ⟨.boolean value, htree ▸ rfl⟩) ?_
  intro found text value rest
  cases found <;> simp [Head.tree?]

/-! ## Brackets -/

/-- An array is opened by a bracket after blanks. -/
theorem openArray_iff {wanted : Wanted} :
    openArray wanted text = .ok ((), rest) ↔ Blanks text ('[' :: rest) := by
  constructor
  · intro h
    obtain ⟨found, mid, hhead, hfound⟩ := bind_success h
    obtain rfl : found = .array := by cases found <;> first | rfl | cases hfound
    cases hfound
    obtain ⟨start, hblanks, hopens⟩ := head_sound hhead
    cases hopens with
    | array => exact hblanks
    | scalar start rest found tree htree => cases htree
  · intro h
    obtain ⟨blanks, hall, rfl⟩ := h.exists_separators
    exact openArray_blanks wanted hall

/-- An object is opened by a brace after blanks. -/
theorem openObject_iff {wanted : Wanted} :
    openObject wanted text = .ok ((), rest) ↔ Blanks text ('\x7b' :: rest) := by
  constructor
  · intro h
    obtain ⟨found, mid, hhead, hfound⟩ := bind_success h
    obtain rfl : found = .object := by cases found <;> first | rfl | cases hfound
    cases hfound
    obtain ⟨start, hblanks, hopens⟩ := head_sound hhead
    cases hopens with
    | object => exact hblanks
    | scalar start rest found tree htree => cases htree
  · intro h
    obtain ⟨blanks, hall, rfl⟩ := h.exists_separators
    exact openObject_blanks wanted hall

/-- A bracket is closed by that bracket after blanks. -/
theorem close_iff {bracket : Char} (hbracket : Text.isSeparator bracket = false) :
    close bracket text = .ok ((), rest) ↔ Blanks text (bracket :: rest) := by
  constructor
  · intro h
    obtain ⟨_, mid, hskip, hclose⟩ := bind_success h
    have hblanks : Blanks text mid := by
      cases hskip
      exact .dropWhile text
    obtain ⟨_, _, hget, hset⟩ := bind_success hclose
    cases hget
    cases mid with
    | nil => cases hset
    | cons char after =>
        dsimp only at hset
        split at hset
        · next hchar =>
            cases hset
            exact hchar ▸ hblanks
        · cases hset
  · intro h
    obtain ⟨blanks, hall, rfl⟩ := h.exists_separators
    exact close_blanks hall hbracket

/-- Blanks before a comma or a bracket are skipped. -/
theorem hasNext_blanks {first : Bool} {close : Char} (h : Blanks text mid) :
    hasNext first close text = hasNext first close mid := by
  obtain ⟨blanks, hall, rfl⟩ := h.exists_separators
  unfold hasNext
  rw [List.dropWhile_append_of_pos hall]

/-- An item that was announced stands at its place. -/
theorem hasNext_sound {first : Bool} {close : Char}
    (h : hasNext first close text = .ok (true, mid)) : ItemStart first text mid := by
  unfold hasNext at h
  have hblanks := Blanks.dropWhile text
  split at h
  · cases h
  · next char after heq =>
      rw [heq] at hblanks
      split at h
      · cases h
      · obtain ⟨_, left, hseparator, hpure⟩ := bind_success (f := fun _ => pure true) h
        cases hpure
        unfold separatorAfterBlanks at hseparator
        dsimp only at hseparator
        split at hseparator
        · next hfirst =>
            cases hseparator
            rw [ItemStart, if_pos hfirst]
            exact hblanks
        · next hfirst =>
            rw [ItemStart, if_neg hfirst]
            split at hseparator
            · next hcomma =>
                subst hcomma
                refine ⟨after, hblanks, ?_⟩
                have hafter := Blanks.dropWhile after
                split at hseparator
                · cases hseparator
                · next next others hnext =>
                    split at hseparator
                    · cases hseparator
                    · cases hseparator
                      rwa [hnext] at hafter
            · cases hseparator

/-- Where no item is announced, the closing bracket stands. -/
theorem hasNext_sound_end {first : Bool} {close : Char}
    (h : hasNext first close text = .ok (false, mid)) :
    ∃ rest, mid = close :: rest ∧ Blanks text mid := by
  unfold hasNext at h
  have hblanks := Blanks.dropWhile text
  split at h
  · cases h
  · next char after heq =>
      split at h
      · next hclose =>
          cases h
          exact ⟨after, hclose ▸ rfl, heq ▸ hblanks⟩
      · obtain ⟨_, left, hseparator, hpure⟩ := bind_success (f := fun _ => pure true) h
        cases hpure

/-- An item that stands at its place is announced. -/
theorem hasNext_complete {first : Bool} {close : Char} (hclose : close ∈ [']', '\x7d'])
    (h : ItemStart first text start) (hstarts : StartsValue start) :
    hasNext first close text = .ok (true, start) := by
  cases first with
  | true =>
      obtain ⟨blanks, hall, rfl⟩ := Blanks.exists_separators h
      exact hasNext_first hall hclose hstarts
  | false =>
      obtain ⟨after, hcomma, hafter⟩ := h
      obtain ⟨blanks, hall, rfl⟩ := hafter.exists_separators
      rw [hasNext_blanks hcomma]
      exact hasNext_comma hall hclose hstarts

/-! ## Items up to a closing bracket -/

/-- The reader tells whether another item of the relation follows. -/
structure Announces (more : Bool → Reader Bool) (close : Char)
    (R : List Char → List Char → α → Prop) : Prop where
  next_sound : ∀ {first text mid}, more first text = .ok (true, mid) → ItemStart first text mid
  next_complete : ∀ {first text start rest item}, ItemStart first text start → R start rest item →
    more first text = .ok (true, start)
  done_sound : ∀ {first text mid}, more first text = .ok (false, mid) →
    ∃ rest, mid = close :: rest ∧ Blanks text mid
  done_complete : ∀ {first text rest}, Blanks text (close :: rest) →
    more first text = .ok (false, close :: rest)

/-- Whether an item follows is told of every relation whose texts start as values do. -/
theorem hasItem_announces {R : List Char → List Char → α → Prop}
    (hstarts : ∀ {start rest item}, R start rest item → StartsValue start) :
    Announces hasItem ']' R where
  next_sound := hasNext_sound
  next_complete hstart hitem := hasNext_complete (by decide) hstart (hstarts hitem)
  done_sound := hasNext_sound_end
  done_complete hblanks := by
    obtain ⟨blanks, hall, rfl⟩ := Blanks.exists_separators hblanks
    exact hasNext_end hall (by decide) _

/-- Whether a key follows is told of entries. -/
theorem hasKey_announces {R : List Char → List Char → Json → Prop} :
    Announces hasKey '\x7d' (Entry R) where
  next_sound h := by
    obtain ⟨found, mid, hnext, hkey⟩ := bind_success h
    cases found with
    | false => cases hkey
    | true =>
        obtain ⟨_, mid, hget, hquote⟩ := bind_success hkey
        cases hget
        split at hquote
        · cases hquote
          exact hasNext_sound hnext
        · cases hquote
  next_complete {first text start rest item} hstart hentry := by
    have hnext : hasNext first '\x7d' text = .ok (true, start) :=
      hasNext_complete (by decide) hstart hentry.starts
    cases hentry with
    | intro => exact bind_ok hnext
  done_sound h := by
    obtain ⟨found, mid, hnext, hkey⟩ := bind_success h
    cases found with
    | false =>
        cases hkey
        exact hasNext_sound_end hnext
    | true =>
        obtain ⟨_, mid, hget, hquote⟩ := bind_success hkey
        cases hget
        split at hquote <;> cases hquote
  done_complete hblanks := by
    obtain ⟨blanks, hall, rfl⟩ := Blanks.exists_separators hblanks
    exact hasKey_end hall _

/-- Reads items as long as more of them are announced, at most `bound` of them. -/
def listFrom (more : Bool → Reader Bool) (item : Reader α) :
    (bound : Nat) → (first : Bool) → Reader (List α)
  | 0, _ => throw .endOfText
  | bound + 1, first => do
    if ← more first then
      let value ← item
      return value :: (← listFrom more item bound false)
    else return []

/-- Reads a key, the colon after it and an item. -/
def entry (item : Reader α) : Reader (String × α) := do
  let key ← string
  colon
  let value ← item
  return (key, value)

/-- The items of an array are a list whose members are announced. -/
theorem itemsFrom_eq (item : Reader α) (bound : Nat) :
    itemsFrom item bound = listFrom hasItem item bound := by
  induction bound with
  | zero => rfl
  | succ bound ih =>
      funext first
      rw [itemsFrom, listFrom, ih]

/-- The entries of an object are a list whose members are announced. -/
theorem entriesFrom_eq (item : Reader α) (bound : Nat) :
    entriesFrom item bound = listFrom hasKey (entry item) bound := by
  induction bound with
  | zero => rfl
  | succ bound ih =>
      funext first
      simp only [entriesFrom, listFrom, entry, ih, bind_assoc, pure_bind]

section Lists

variable {more : Bool → Reader Bool} {close : Char} {item : Reader α}
  {R : List Char → List Char → α → Prop} (hmore : Announces more close R) (hitem : Accepts item R)
include hmore hitem

/-- What is read as items is listed up to the closing bracket. -/
theorem listFrom_sound {bound : Nat} {first : Bool} {values : List α}
    (h : listFrom more item bound first text = .ok (values, mid)) :
    ∃ rest, mid = close :: rest ∧ Listed close R first text rest values := by
  induction bound generalizing first text values with
  | zero => cases h
  | succ bound ih =>
      obtain ⟨found, after, hfound, hrest⟩ := bind_success h
      cases found with
      | false =>
          cases hrest
          obtain ⟨rest, rfl, hblanks⟩ := hmore.done_sound hfound
          exact ⟨rest, rfl, .done _ _ _ hblanks⟩
      | true =>
          obtain ⟨value, finish, hvalue, hothers⟩ := bind_success hrest
          obtain ⟨others, left, hothers, hpure⟩ := bind_success hothers
          cases hpure
          obtain ⟨start, hblanks, hR⟩ := hitem.sound hvalue
          obtain ⟨rest, rfl, hlisted⟩ := ih hothers
          exact ⟨rest, rfl, .next _ _ _ _ _ _ _ ((hmore.next_sound hfound).of_blanks hblanks) hR
            hlisted⟩

/-- Items that are listed up to the closing bracket are read. -/
theorem listFrom_complete (hclose : close ∈ [']', '\x7d']) {first : Bool} {values : List α}
    (h : Listed close R first text rest values) {bound : Nat} (hbound : values.length < bound) :
    listFrom more item bound first text = .ok (values, close :: rest) := by
  induction h generalizing bound with
  | done first text rest hblanks =>
      obtain ⟨less, rfl⟩ := Nat.exists_eq_add_one_of_ne_zero (Nat.ne_of_gt hbound)
      rw [listFrom, bind_ok (hmore.done_complete hblanks)]
      rfl
  | next first text start finish rest value values hstart hR hothers ih =>
      obtain ⟨less, rfl⟩ := Nat.exists_eq_add_one_of_ne_zero (Nat.ne_zero_of_lt hbound)
      have hvalue : item start = .ok (value, finish) :=
        hitem.complete (.refl start) hR (hothers.numberEnds hclose)
      have hvalues := ih (Nat.lt_of_succ_lt_succ hbound)
      rw [listFrom, bind_ok (hmore.next_complete hstart hR)]
      show (item >>= fun value => listFrom more item less false >>= fun values =>
        pure (value :: values)) start = _
      rw [bind_ok hvalue, bind_ok hvalues]
      rfl

/-- A list is read up to its closing bracket. The length of the text bounds the number of its
items. -/
theorem listFrom_close_iff (hclose : close ∈ [']', '\x7d'])
    (hshrinks : ∀ {start rest value}, R start rest value → rest.length < start.length)
    {values : List α} :
    (do
      let values ← listFrom more item ((← get).length + 1) true
      Reader.close close
      return values : Reader (List α)) text = .ok (values, rest) ↔
      Listed close R true text rest values := by
  have hseparator : Text.isSeparator close = false :=
    (by decide : ∀ close ∈ [']', '\x7d'], Text.isSeparator close = false) close hclose
  constructor
  · intro h
    obtain ⟨_, _, hget, hread⟩ := bind_success h
    cases hget
    obtain ⟨found, mid, hfound, hclosed⟩ := bind_success hread
    obtain ⟨left, rfl, hlisted⟩ := listFrom_sound hmore hitem hfound
    obtain ⟨_, after, hclosing, hpure⟩ := bind_success hclosed
    cases hpure
    have hblanks := ((close_iff hseparator).1 hclosing).eq_of_stops (Text.stops_cons.2 hseparator)
    cases hblanks
    exact hlisted
  · intro h
    have hbound : values.length < text.length + 1 := by
      have := h.shrinks fun _ _ _ _ hR => hshrinks hR
      omega
    have hget : (get : Reader (List Char)) text = .ok (text, text) := rfl
    rw [bind_ok hget, bind_ok (listFrom_complete hmore hitem hclose h hbound),
      bind_ok ((close_iff hseparator).2 (.refl _))]
    rfl

end Lists

/-- Items are read exactly if they are listed up to the bracket. -/
theorem items_iff {item : Reader α} {C : α → Json → Prop} {depth : Nat}
    (hitem : Accepts item (Codes C depth)) {values : List α} :
    items item text = .ok (values, rest) ↔ Listed ']' (Codes C depth) true text rest values := by
  unfold items
  simp only [itemsFrom_eq]
  exact listFrom_close_iff (hasItem_announces Codes.starts) hitem (by decide) Codes.shrinks

/-- A colon is read after blanks. -/
theorem colon_iff : colon text = .ok ((), rest) ↔ Blanks text (':' :: rest) :=
  close_iff rfl

/-- A key with its item is read. -/
theorem entry_accepts {item : Reader Json} {R : List Char → List Char → Json → Prop}
    (hitem : Accepts item R) : Accepts (entry item) (Entry R) where
  sound {text rest value} h := by
    obtain ⟨key, afterKey, hkey, hread⟩ := bind_success h
    obtain ⟨_, afterColon, hcolon, hread⟩ := bind_success hread
    obtain ⟨found, left, hfound, hpure⟩ := bind_success hread
    cases hpure
    obtain ⟨start, hblanks, tree, hstring, -, rfl⟩ := (string_accepts 0).sound hkey
    obtain ⟨itemStart, hitemBlanks, hR⟩ := hitem.sound hfound
    cases hstring with
    | string chars =>
        exact ⟨_, hblanks, .intro _ _ _ _ _ _ _ ‹_› (colon_iff.1 hcolon) hitemBlanks hR⟩
  complete {text start rest value} hblanks hentry hrest := by
    cases hentry with
    | intro inner afterKey afterColon itemStart rest chars found hchars hcolon hitemBlanks hR =>
        have hkey : string text = .ok (String.ofList chars, afterKey) :=
          (string_accepts 0).complete hblanks ⟨_, .string _ _ _ hchars, Nat.le_refl 0, rfl⟩
            (numberEnds_mark hcolon (by decide))
        unfold entry
        rw [bind_ok hkey, bind_ok (colon_iff.2 hcolon),
          bind_ok (hitem.complete hitemBlanks hR hrest)]
        rfl

/-- Entries are read exactly if they are listed up to the brace. -/
theorem entries_iff {item : Reader Json} {C : Json → Json → Prop} {depth : Nat}
    (hitem : Accepts item (Codes C depth)) {values : List (String × Json)} :
    entries item text = .ok (values, rest) ↔
      Listed '\x7d' (Entry (Codes C depth)) true text rest values := by
  unfold entries
  simp only [entriesFrom_eq]
  exact listFrom_close_iff hasKey_announces (entry_accepts hitem) (by decide)
    fun hentry => hentry.shrinks fun _ _ _ => Codes.shrinks

/-! ## Lists of trees -/

/-- Items stand for the items of a list of trees, all of which fit into the levels that are left. -/
theorem listed_codes_iff {C : α → Json → Prop} {depth : Nat} {first : Bool} {values : List α} :
    Listed ']' (Codes C depth) first text rest values ↔
      ∃ trees, Listed ']' Value first text rest trees ∧ (∀ tree ∈ trees, tree.depth ≤ depth) ∧
        List.Forall₂ C values trees := by
  refine (Listed.exists_iff (S := Value)
    (D := fun value tree => tree.depth ≤ depth ∧ C value tree) fun _ _ _ => Iff.rfl).trans ?_
  refine exists_congr fun trees => and_congr_right fun _ => ?_
  have hsplit := List.forall₂_and_left (p := fun tree => tree.depth ≤ depth) (R := flip C) trees
    values
  constructor
  · intro h
    obtain ⟨hdepth, hC⟩ := hsplit.1 (List.Forall₂.flip (R := fun tree value => _ ∧ _) h)
    exact ⟨hdepth, hC.flip⟩
  · rintro ⟨hdepth, hC⟩
    exact List.Forall₂.flip (hsplit.2 ⟨hdepth, List.Forall₂.flip hC⟩)

/-- Entries with items that fit into the levels that are left. -/
theorem listed_entry_iff {depth : Nat} {first : Bool} {values : List (String × Json)} :
    Listed '\x7d' (Entry (Codes Eq depth)) first text rest values ↔
      Listed '\x7d' (Entry Value) first text rest values ∧
        ∀ value ∈ values, value.2.depth ≤ depth := by
  have hentry : ∀ start finish value, Entry (Codes Eq depth) start finish value ↔
      ∃ other, Entry Value start finish other ∧ (value.2.depth ≤ depth ∧ value = other) := by
    intro start finish value
    constructor
    · rintro ⟨text, afterKey, afterColon, start, rest, chars, item, hchars, hcolon, hblanks, tree,
        hvalue, hdepth, rfl⟩
      exact ⟨_, .intro _ _ _ _ _ _ _ hchars hcolon hblanks hvalue, hdepth, rfl⟩
    · rintro ⟨_, ⟨text, afterKey, afterColon, start, rest, chars, item, hchars, hcolon, hblanks,
        hvalue⟩, hdepth, rfl⟩
      exact .intro _ _ _ _ _ _ _ hchars hcolon hblanks ⟨_, hvalue, hdepth, rfl⟩
  rw [Listed.exists_iff hentry]
  constructor
  · rintro ⟨others, hothers, hall⟩
    obtain ⟨hdepth, heq⟩ := (List.forall₂_and_left values others).1 hall
    rw [List.forall₂_eq_eq_eq] at heq
    exact ⟨heq ▸ hothers, hdepth⟩
  · rintro ⟨hvalues, hdepth⟩
    refine ⟨values, hvalues, (List.forall₂_and_left values values).2 ⟨hdepth, ?_⟩⟩
    rw [List.forall₂_eq_eq_eq]

/-- Equal trees are read one by one. -/
theorem listed_value_iff {depth : Nat} {first : Bool} {trees : List Json} :
    Listed ']' (Codes Eq depth) first text rest trees ↔
      Listed ']' Value first text rest trees ∧ ∀ tree ∈ trees, tree.depth ≤ depth := by
  rw [listed_codes_iff, List.forall₂_eq_eq_eq]
  constructor
  · rintro ⟨others, hlisted, hdepth, rfl⟩
    exact ⟨hlisted, hdepth⟩
  · rintro ⟨hlisted, hdepth⟩
    exact ⟨trees, hlisted, hdepth, rfl⟩

/-! ## Trees -/

/-- Values are read after their heads. -/
theorem valueWith_accepts {array object : Reader Json} {depth : Nat}
    (harray : ∀ {text rest tree}, array text = .ok (tree, rest) ↔ ∃ trees, tree = .array trees ∧
      Listed ']' Value true text rest trees ∧ tree.depth ≤ depth)
    (hobject : ∀ {text rest tree}, object text = .ok (tree, rest) ↔ ∃ entries,
      tree = .object entries ∧ Listed '\x7d' (Entry Value) true text rest entries ∧
      tree.depth ≤ depth) :
    Accepts (valueWith array object) (Codes Eq depth) where
  sound {text rest value} h := by
    obtain ⟨found, mid, hhead, hread⟩ := bind_success h
    obtain ⟨start, hblanks, hopens⟩ := head_sound hhead
    refine ⟨start, hblanks, ?_⟩
    cases hopens with
    | scalar start mid found tree htree hvalue =>
        have hdepth : tree.depth ≤ depth := by rw [depth_tree? htree]; exact Nat.zero_le _
        cases found <;> cases htree <;> cases hread <;> exact ⟨_, hvalue, hdepth, rfl⟩
    | array mid =>
        obtain ⟨trees, rfl, hlisted, hdepth⟩ := harray.1 hread
        exact ⟨_, .array _ _ _ hlisted, hdepth, rfl⟩
    | object mid =>
        obtain ⟨entries, rfl, hlisted, hdepth⟩ := hobject.1 hread
        exact ⟨_, .object _ _ _ hlisted, hdepth, rfl⟩
  complete {text start rest value} hblanks hcodes hrest := by
    obtain ⟨_, hvalue, hdepth, rfl⟩ := hcodes
    have hscalar (found : Head) (htree : found.tree? = some value) :
        valueWith array object text = .ok (value, rest) := by
      have hhead := head_complete hblanks htree hvalue hrest
      rw [valueWith, bind_ok hhead]
      cases found <;> cases htree <;> rfl
    obtain ⟨blanks, hall, rfl⟩ := hblanks.exists_separators
    cases hvalue with
    | null => exact hscalar .null rfl
    | trueWord | falseWord => exact hscalar (.boolean _) rfl
    | number token rest number => exact hscalar (.number number) rfl
    | string text rest chars => exact hscalar (.string _) rfl
    | array inner rest trees hlisted =>
        have hhead : head (blanks ++ '[' :: inner) = .ok (.array, inner) :=
          head_blanks hall (Text.stops_cons.2 rfl)
        rw [valueWith, bind_ok hhead]
        exact harray.2 ⟨trees, rfl, hlisted, hdepth⟩
    | object inner rest entries hlisted =>
        have hhead : head (blanks ++ '\x7b' :: inner) = .ok (.object, inner) :=
          head_blanks hall (Text.stops_cons.2 rfl)
        rw [valueWith, bind_ok hhead]
        exact hobject.2 ⟨entries, rfl, hlisted, hdepth⟩

/-- A success of a function applied to what is read. -/
theorem map_iff {reader : Reader α} {f : α → β} {result : β} :
    (f <$> reader) text = .ok (result, rest) ↔
      ∃ value, reader text = .ok (value, rest) ∧ f value = result := by
  constructor
  · exact map_success
  · rintro ⟨value, hvalue, rfl⟩
    exact map_ok hvalue

/-- The reader of trees accepts the values that fit into the levels that are left. -/
theorem value_accepts (depth : Nat) : Accepts (value depth) (Codes Eq depth) := by
  induction depth with
  | zero =>
      refine valueWith_accepts (fun {text rest tree} => ⟨fun h => absurd h throw_ne_ok, ?_⟩)
        (fun {text rest tree} => ⟨fun h => absurd h throw_ne_ok, ?_⟩)
      · rintro ⟨trees, rfl, -, hdepth⟩
        simp [depth] at hdepth
      · rintro ⟨entries, rfl, -, hdepth⟩
        simp [depth] at hdepth
  | succ depth ih =>
      refine valueWith_accepts (fun {text rest tree} => ?_) (fun {text rest tree} => ?_)
      · rw [map_iff]
        simp only [items_iff ih, listed_value_iff]
        constructor
        · rintro ⟨trees, ⟨hlisted, hdepth⟩, rfl⟩
          exact ⟨trees, rfl, hlisted, depth_array_le.2 ⟨Nat.succ_pos depth, hdepth⟩⟩
        · rintro ⟨trees, rfl, hlisted, hdepth⟩
          exact ⟨trees, ⟨hlisted, (depth_array_le.1 hdepth).2⟩, rfl⟩
      · rw [map_iff]
        simp only [entries_iff ih, listed_entry_iff]
        constructor
        · rintro ⟨entries, ⟨hlisted, hdepth⟩, rfl⟩
          exact ⟨entries, rfl, hlisted, depth_entries_le.2 ⟨Nat.succ_pos depth, hdepth⟩⟩
        · rintro ⟨entries, rfl, hlisted, hdepth⟩
          exact ⟨entries, ⟨hlisted, (depth_entries_le.1 hdepth).2⟩, rfl⟩

/-- A whole text is read if it is a document that stands for what is read. -/
theorem document_eq_ok_iff {reader : Reader α} {C : α → Json → Prop} {depth : Nat}
    (h : Accepts reader (Codes C depth)) {text : String} {value : α} :
    document reader text = .ok value ↔
      ∃ tree, Document text.toList tree ∧ tree.depth ≤ depth ∧ C value tree := by
  constructor
  · intro hread
    obtain ⟨⟨found, finish⟩, hfound, hend⟩ := except_bind_success hread
    obtain ⟨start, hblanks, tree, hvalue, hdepth, hC⟩ := h.sound hfound
    dsimp only at hend
    split at hend
    · next hempty =>
        cases hend
        have hafter := Blanks.dropWhile finish
        rw [List.isEmpty_iff.1 hempty] at hafter
        exact ⟨tree, ⟨start, finish, hblanks, hvalue, hafter⟩, hdepth, hC⟩
    · cases hend
  · rintro ⟨tree, ⟨start, finish, hblanks, hvalue, hafter⟩, hdepth, hC⟩
    obtain ⟨after, hall, rfl⟩ := hafter.exists_separators
    have hread : reader text.toList = .ok (value, after ++ []) :=
      h.complete hblanks ⟨tree, hvalue, hdepth, hC⟩ (numberEnds_blanks hall Text.stops_nil)
    rw [document, hread]
    show (if ((after ++ []).dropWhile Text.isSeparator).isEmpty then _ else _) = _
    rw [Text.dropWhile_run hall Text.stops_nil]
    rfl

end Reader

/-- A text is read as a tree if it is a document of that tree, and the tree is not too deep. -/
theorem parse_eq_ok_iff {depth : Nat} {text : String} {tree : Json} :
    parse depth text = .ok tree ↔ Document text.toList tree ∧ tree.depth ≤ depth := by
  rw [parse, Reader.document_eq_ok_iff (Reader.value_accepts depth)]
  constructor
  · rintro ⟨_, hdocument, hdepth, rfl⟩
    exact ⟨hdocument, hdepth⟩
  · rintro ⟨hdocument, hdepth⟩
    exact ⟨tree, hdocument, hdepth, rfl⟩

/-- A text is a document of at most one tree. -/
theorem Document.unique {text : String} {tree other : Json} (h : Document text.toList tree)
    (hother : Document text.toList other) : tree = other := by
  have hread := parse_eq_ok_iff.2 ⟨h, Nat.le_max_left tree.depth other.depth⟩
  have hotherRead := parse_eq_ok_iff.2 ⟨hother, Nat.le_max_right tree.depth other.depth⟩
  exact Except.ok.inj (hread.symm.trans hotherRead)

end HostScript.Json
