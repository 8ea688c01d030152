import HostScript.Proofs.Json.Numbers

/-!
# Reading trees that were written

What the readers of brackets, commas, keys and items do on the text of a tree. The blanks of a
layout are skipped wherever a reader meets them, so every statement holds for both layouts. A
written list is read by `items_decides`.
-/

namespace HostScript.Json

/-- The blanks of a layout are blanks. -/
structure Layout.IsBlank (layout : Layout) : Prop where
  lineBreak : ∀ level, ∀ char ∈ layout.lineBreak level, Text.isSeparator char = true
  afterColon : ∀ char ∈ layout.afterColon, Text.isSeparator char = true

/-- The compact layout has no blanks at all. -/
theorem Layout.isBlank_compact : Layout.compact.IsBlank where
  lineBreak _ _ h := absurd h List.not_mem_nil
  afterColon _ h := absurd h List.not_mem_nil

/-- The line breaks and indents of the pretty layout are blanks. -/
theorem Layout.isBlank_pretty : Layout.pretty.IsBlank where
  lineBreak level char h := by
    rcases List.mem_cons.1 h with rfl | hspace
    · rfl
    · rw [List.eq_of_mem_replicate hspace]
      rfl
  afterColon char h := by
    rw [List.mem_singleton.1 h]
    rfl

/-! ## Texts of trees -/

mutual

/-- A tree is written in front of a text. -/
theorem write_append (layout : Layout) : ∀ (level : Nat) (json : Json) (rest : List Char),
    write layout level json rest = write layout level json [] ++ rest
  | _, .null, rest => by simp [write]
  | _, .boolean _, rest => by simp [write]
  | _, .number _, rest => by simp [write]
  | _, .string _, rest => by simp [write]
  | _, .array [], rest => rfl
  | level, .array (item :: items), rest => by
      rw [write, write, write_append layout _ item, write_append layout _ item
        (writeItems layout level items []), writeItems_append layout level items rest]
      simp
  | _, .object [], rest => rfl
  | level, .object ((key, item) :: entries), rest => by
      rw [write, write, write_append layout _ item, write_append layout _ item
        (writeEntries layout level entries []), writeEntries_append layout level entries rest]
      simp

/-- Items are written in front of the rest. -/
theorem writeItems_append (layout : Layout) : ∀ (level : Nat) (items : List Json)
    (rest : List Char),
    writeItems layout level items rest = writeItems layout level items [] ++ rest
  | _, [], rest => by simp [writeItems]
  | level, item :: items, rest => by
      rw [writeItems, writeItems, write_append layout _ item, write_append layout _ item
        (writeItems layout level items []), writeItems_append layout level items rest]
      simp

/-- Entries are written in front of the rest. -/
theorem writeEntries_append (layout : Layout) : ∀ (level : Nat) (entries : List (String × Json))
    (rest : List Char),
    writeEntries layout level entries rest = writeEntries layout level entries [] ++ rest
  | _, [], rest => by simp [writeEntries]
  | level, (key, item) :: entries, rest => by
      rw [writeEntries, writeEntries, write_append layout _ item, write_append layout _ item
        (writeEntries layout level entries []), writeEntries_append layout level entries rest]
      simp

end

/-- Every item takes a character. -/
theorem length_le_writeItems (layout : Layout) (level : Nat) (items : List Json)
    (rest : List Char) : items.length ≤ (writeItems layout level items rest).length := by
  induction items with
  | nil => exact Nat.zero_le _
  | cons item items ih =>
      rw [writeItems, write_append]
      simp only [List.length_cons, List.length_append, List.cons_append]
      omega

/-- A character that a value may start with: no blank, no comma, no colon and no closing bracket. -/
def startsValue (char : Char) : Bool :=
  !(Text.isSeparator char || [',', ':', ']', '\x7d'].contains char)

/-- A digit may start a value. -/
theorem startsValue_of_isDigit {char : Char} (h : char.isDigit = true) :
    startsValue char = true := by
  have hne : ∀ other ∈ [' ', '\t', '\n', '\r', ',', ':', ']', '\x7d'], char ≠ other :=
    Text.ne_of_class h (by decide)
  simp only [List.mem_cons, List.not_mem_nil, or_false, forall_eq_or_imp, forall_eq] at hne
  simp [startsValue, Text.isSeparator, hne]

/-- A text starts with a value. -/
def StartsValue (text : List Char) : Prop :=
  ∃ first others, text = first :: others ∧ startsValue first = true

/-- The text of a number starts with a value. -/
theorem startsValue_number (number : Number) (rest : List Char) :
    StartsValue (number.text ++ rest) := by
  have hdigit : ∀ {text : List Char},
      (∃ first others, text = first :: others ∧ first.isDigit = true) →
      StartsValue (text ++ rest) := by
    rintro text ⟨first, others, rfl, hfirst⟩
    exact ⟨first, others ++ rest, rfl, startsValue_of_isDigit hfirst⟩
  cases number with
  | integer value =>
      cases value with
      | ofNat magnitude => exact hdigit (Reader.head_toDigits magnitude)
      | negSucc magnitude => exact ⟨'-', _, rfl, rfl⟩
  | float value =>
      cases value with
      | nan => exact ⟨'n', _, rfl, rfl⟩
      | infinite => exact ⟨'n', _, rfl, rfl⟩
      | finite negative rank =>
          simp only [Number.text, Binary64.floatText?, Option.getD_some]
          split
          · exact ⟨'-', _, rfl, rfl⟩
          · exact hdigit (Reader.head_layout _)

/-- The text of a tree starts with a value. -/
theorem startsValue_write (layout : Layout) (level : Nat) (json : Json) (rest : List Char) :
    StartsValue (write layout level json rest) := by
  cases json with
  | null => exact ⟨'n', _, rfl, rfl⟩
  | boolean value => cases value <;> exact ⟨_, _, rfl, rfl⟩
  | number value => exact startsValue_number value rest
  | string value => exact ⟨'"', _, rfl, rfl⟩
  | array items => cases items <;> exact ⟨'[', _, rfl, rfl⟩
  | object entries => cases entries <;> exact ⟨'\x7b', _, rfl, rfl⟩

/-- A text that starts with a value does not start with a blank. -/
theorem StartsValue.stops {text : List Char} (h : StartsValue text) :
    Text.Stops Text.isSeparator text := by
  obtain ⟨first, others, rfl, hfirst⟩ := h
  simp only [startsValue, Bool.not_eq_true', Bool.or_eq_false_iff] at hfirst
  exact Text.stops_cons.2 hfirst.1

/-- A value starts with none of the characters between values. -/
theorem StartsValue.ne {text : List Char} (h : StartsValue text) :
    ∃ first others, text = first :: others ∧ ∀ char ∈ [',', ':', ']', '\x7d'], first ≠ char := by
  obtain ⟨first, others, rfl, hfirst⟩ := h
  simp only [startsValue, Bool.not_eq_true', Bool.or_eq_false_iff, List.contains_eq_mem,
    decide_eq_false_iff_not] at hfirst
  exact ⟨first, others, rfl, fun char hchar heq => hfirst.2 (heq ▸ hchar)⟩

/-! ## Brackets and commas -/

namespace Reader

variable {blanks value rest : List Char}

section Brackets

variable {close : Char} (hblanks : ∀ char ∈ blanks, Text.isSeparator char = true)
  (hclose : close ∈ [']', '\x7d'])
include hblanks hclose

/-- The first item follows an opening bracket. -/
theorem hasNext_first (hvalue : StartsValue value) :
    hasNext true close (blanks ++ value) = .ok (true, value) := by
  obtain ⟨first, others, heq, hne⟩ := hvalue.ne
  have hfirst := hne close (List.mem_append_right [',', ':'] hclose)
  unfold hasNext
  rw [Text.dropWhile_run hblanks hvalue.stops, heq]
  dsimp only
  rw [if_neg hfirst]
  rfl

/-- Another item follows a comma. -/
theorem hasNext_comma (hvalue : StartsValue value) :
    hasNext false close (',' :: (blanks ++ value)) = .ok (true, value) := by
  obtain ⟨first, others, heq, hne⟩ := hvalue.ne
  have hfirst := hne close (List.mem_append_right [',', ':'] hclose)
  have hcomma : ',' ≠ close := by
    rintro rfl
    exact absurd hclose (by decide)
  have hdrop : (',' :: (blanks ++ value)).dropWhile Text.isSeparator = ',' :: (blanks ++ value) :=
    Text.dropWhile_of_stops (Text.stops_cons.2 rfl)
  have hseparator : separatorAfterBlanks false close (',' :: (blanks ++ value)) =
      .ok ((), value) := by
    rw [separatorAfterBlanks, if_neg (by decide), if_pos rfl,
      Text.dropWhile_run hblanks hvalue.stops, heq]
    dsimp only
    rw [if_neg hfirst]
  unfold hasNext
  rw [hdrop]
  dsimp only
  rw [if_neg hcomma]
  exact bind_ok hseparator

/-- No item follows before the closing bracket. -/
theorem hasNext_end (first : Bool) :
    hasNext first close (blanks ++ close :: rest) = .ok (false, close :: rest) := by
  have hstops : Text.Stops Text.isSeparator (close :: rest) := by
    have hall : ∀ close ∈ [']', '\x7d'], Text.isSeparator close = false := by decide
    exact Text.stops_cons.2 (hall close hclose)
  unfold hasNext
  rw [Text.dropWhile_run hblanks hstops]
  dsimp only
  rw [if_pos rfl]

end Brackets

/-- There may be no blanks at all. -/
theorem noBlanks : ∀ char ∈ ([] : List Char), Text.isSeparator char = true :=
  fun _ h => absurd h List.not_mem_nil

/-- A closing bracket or a colon is taken after blanks. -/
theorem close_blanks {bracket : Char} (hblanks : ∀ char ∈ blanks, Text.isSeparator char = true)
    (hbracket : Text.isSeparator bracket = false) :
    close bracket (blanks ++ bracket :: rest) = .ok ((), rest) := by
  have hskip : skipBlanks (blanks ++ bracket :: rest) = .ok ((), bracket :: rest) := by
    unfold skipBlanks
    rw [Text.dropWhile_run hblanks (Text.stops_cons.2 hbracket)]
  have hget : (get : Reader (List Char)) (bracket :: rest) =
      .ok (bracket :: rest, bracket :: rest) := rfl
  unfold close
  rw [bind_ok hskip, bind_ok hget]
  dsimp only
  rw [if_pos rfl]
  rfl

/-- An opening bracket is taken after blanks. -/
theorem openArray_blanks (wanted : Wanted)
    (hblanks : ∀ char ∈ blanks, Text.isSeparator char = true) :
    openArray wanted (blanks ++ '[' :: rest) = .ok ((), rest) := by
  have hhead : head (blanks ++ '[' :: rest) = .ok (.array, rest) :=
    head_blanks hblanks (Text.stops_cons.2 rfl)
  exact bind_ok hhead

/-- An opening brace is taken after blanks. -/
theorem openObject_blanks (wanted : Wanted)
    (hblanks : ∀ char ∈ blanks, Text.isSeparator char = true) :
    openObject wanted (blanks ++ '\x7b' :: rest) = .ok ((), rest) := by
  have hhead : head (blanks ++ '\x7b' :: rest) = .ok (.object, rest) :=
    head_blanks hblanks (Text.stops_cons.2 rfl)
  exact bind_ok hhead

/-- A string is read. -/
theorem string_stringText (value : String) (rest : List Char) :
    string (stringText value ++ rest) = .ok (value, rest) := by
  have hhead : head (stringText value ++ rest) = .ok (.string value, rest) :=
    (head_blanks noBlanks (Text.stops_cons.2 rfl)).trans (headAfterBlanks_string value rest)
  exact bind_ok hhead

/-- The first key follows an opening brace. -/
theorem hasKey_first (hblanks : ∀ char ∈ blanks, Text.isSeparator char = true) (key : String) :
    hasKey true (blanks ++ (stringText key ++ rest)) = .ok (true, stringText key ++ rest) := by
  have hnext : hasNext true '\x7d' (blanks ++ (stringText key ++ rest)) =
      .ok (true, stringText key ++ rest) :=
    hasNext_first hblanks (by decide) ⟨'"', _, rfl, rfl⟩
  exact bind_ok hnext

/-- No key follows before the closing brace. -/
theorem hasKey_end (hblanks : ∀ char ∈ blanks, Text.isSeparator char = true) (first : Bool) :
    hasKey first (blanks ++ '\x7d' :: rest) = .ok (false, '\x7d' :: rest) :=
  bind_ok (hasNext_end hblanks (by decide) first)

end Reader

/-! ## Lists -/

/-- Blanks do not continue a number. -/
theorem numberEnds_blanks {blanks rest : List Char}
    (hblanks : ∀ char ∈ blanks, Text.isSeparator char = true) (hrest : Reader.NumberEnds rest) :
    Reader.NumberEnds (blanks ++ rest) := by
  cases blanks with
  | nil => exact hrest
  | cons char blanks =>
      have hall : ∀ char ∈ [' ', '\t', '\n', '\r'],
          (char.isDigit || ['.', 'e', 'E'].contains char) = false := by decide
      refine Text.stops_cons.2 (hall char ?_)
      exact (Text.isSeparator_iff char).1 (hblanks char List.mem_cons_self)

namespace Reader

/-- Wherever a tree is written after blanks and before what does not continue a number, the reader
gives a value from it if the condition holds, and fails otherwise. -/
def Restores {α : Type} (reader : Reader α) (layout : Layout) (level : Nat) (json : Json)
    (holds : Prop) (value : α) : Prop :=
  ∀ blanks rest : List Char, (∀ char ∈ blanks, Text.isSeparator char = true) → NumberEnds rest →
    Decides reader (blanks ++ write layout level json rest) rest holds value

namespace Restores

variable {α β : Type} {reader : Reader α} {layout : Layout} {level : Nat} {json : Json}
  {holds other : Prop} {value : α} (h : Restores reader layout level json holds value)
include h

/-- Equivalent conditions are decided alike. -/
theorem congr (hiff : other ↔ holds) : Restores reader layout level json other value :=
  fun blanks rest hblanks hrest => (h blanks rest hblanks hrest).congr hiff

/-- What is returned in the end does not change the decision. -/
theorem bind_pure {f : α → Reader β} {result : β} (hresult : f value = pure result) :
    Restores (reader >>= f) layout level json holds result := by
  intro blanks rest hblanks hrest
  refine .congr ((h blanks rest hblanks hrest).bind ?_) (iff_of_eq (and_true _)).symm
  rw [hresult]
  exact .of_ok rfl trivial

end Restores

variable {α β : Type} {layout : Layout} {level : Nat} {item : Reader β} {toJson : α → Json}
  {holds : α → Prop} {result : α → β}

/-- The items after the first one do not continue a number. -/
theorem numberEnds_writeItems (hlayout : layout.IsBlank) (level : Nat) (items : List Json)
    (rest : List Char) : NumberEnds (writeItems layout level items rest) := by
  cases items with
  | nil => exact numberEnds_blanks (hlayout.lineBreak level) (Text.stops_cons.2 rfl)
  | cons item items => exact Text.stops_cons.2 rfl

section Items

variable (hlayout : layout.IsBlank)
include hlayout

/-- A first item is announced. -/
theorem hasItem_write (level : Nat) (json : Json) (rest : List Char) :
    hasItem true (layout.lineBreak (level + 1) ++ write layout (level + 1) json rest) =
      .ok (true, write layout (level + 1) json rest) :=
  hasNext_first (hlayout.lineBreak (level + 1)) (by decide)
    (startsValue_write layout (level + 1) json rest)

/-- A later item is announced. -/
theorem hasItem_writeItems (level : Nat) (json : Json) (items : List Json) (rest : List Char) :
    hasItem false (writeItems layout level (json :: items) rest) =
      .ok (true, write layout (level + 1) json (writeItems layout level items rest)) := by
  rw [writeItems]
  exact hasNext_comma (hlayout.lineBreak (level + 1)) (by decide)
    (startsValue_write layout (level + 1) json (writeItems layout level items rest))

/-- After the last item none is announced. -/
theorem hasItem_writeItems_nil (level : Nat) (rest : List Char) :
    hasItem false (writeItems layout level [] rest) = .ok (false, ']' :: rest) :=
  hasNext_end (hlayout.lineBreak level) (by decide) false

/-- After the last item the list is closed. -/
theorem close_writeItems_nil (level : Nat) (rest : List Char) :
    close ']' (writeItems layout level [] rest) = .ok ((), rest) :=
  close_blanks (hlayout.lineBreak level) rfl

/-- The items after the first one are read if each of them is. -/
theorem itemsFrom_decides {values : List α}
    (h : ∀ value ∈ values,
      Restores item layout (level + 1) (toJson value) (holds value) (result value))
    {bound : Nat} (hbound : values.length < bound) (rest : List Char) :
    Decides (itemsFrom item bound false) (writeItems layout level (values.map toJson) rest)
      (']' :: rest) (∀ value ∈ values, holds value) (values.map result) := by
  induction values generalizing bound with
  | nil =>
      obtain ⟨less, rfl⟩ : ∃ less, bound = less + 1 := ⟨bound - 1, by simp at hbound; omega⟩
      exact .after_ok (hasItem_writeItems_nil hlayout level rest) (.of_ok rfl (by simp))
  | cons value values ih =>
      obtain ⟨less, rfl⟩ : ∃ less, bound = less + 1 := ⟨bound - 1, by simp at hbound; omega⟩
      have hsome := hasItem_writeItems hlayout level (toJson value) (values.map toJson) rest
      have hfirst := h value List.mem_cons_self [] _ noBlanks
        (numberEnds_writeItems hlayout level (values.map toJson) rest)
      have hothers := ih (fun other hother => h other (List.mem_cons_of_mem _ hother))
        (Nat.lt_of_succ_lt_succ hbound)
      -- The items are read one level deeper, each in front of those after it.
      refine .congr (.after_ok hsome (hfirst.bind hothers.map)) ?_
      simp

/-- The items of an array are read if each of them is. -/
theorem items_decides {values : List α}
    (h : ∀ value ∈ values,
      Restores item layout (level + 1) (toJson value) (holds value) (result value))
    {text rest : List Char}
    (htext : write layout level (.array (values.map toJson)) rest = '[' :: text) :
    Decides (items item) text rest (∀ value ∈ values, holds value) (values.map result) := by
  have hclose : close ']' (']' :: rest) = .ok ((), rest) := close_blanks noBlanks rfl
  -- The closing bracket is left by the items and taken after them.
  suffices hitems : Decides (itemsFrom item (text.length + 1) true) text (']' :: rest)
      (∀ value ∈ values, holds value) (values.map result) by
    have hget : (get : Reader (List Char)) text = .ok (text, text) := rfl
    refine .congr (.after_ok hget (hitems.bind (.after_ok hclose (.of_ok rfl trivial)))) ?_
    rw [and_true]
  cases values with
  | nil =>
      obtain rfl : ']' :: rest = text := (List.cons.inj htext).2
      have hnone : hasItem true (']' :: rest) = .ok (false, ']' :: rest) :=
        hasNext_end noBlanks (by decide) true
      exact .after_ok hnone (.of_ok rfl (by simp))
  | cons value values =>
      rw [List.map_cons, write] at htext
      obtain rfl := (List.cons.inj htext).2
      have hsome := hasItem_write hlayout level (toJson value)
        (writeItems layout level (values.map toJson) rest)
      have hfirst := h value List.mem_cons_self [] _ noBlanks
        (numberEnds_writeItems hlayout level (values.map toJson) rest)
      have hbound : values.length < (layout.lineBreak (level + 1) ++ write layout (level + 1)
          (toJson value) (writeItems layout level (values.map toJson) rest)).length := by
        obtain ⟨first, others, hwrite, -⟩ := startsValue_write layout (level + 1) (toJson value) []
        have hlength := length_le_writeItems layout level (values.map toJson) rest
        rw [List.length_map] at hlength
        rw [write_append, hwrite, List.length_append, List.length_append, List.length_cons]
        omega
      have hothers := itemsFrom_decides hlayout
        (fun other hother => h other (List.mem_cons_of_mem _ hother)) hbound rest
      refine .congr (.after_ok hsome (hfirst.bind hothers.map)) ?_
      simp

end Items

end Reader

end HostScript.Json
