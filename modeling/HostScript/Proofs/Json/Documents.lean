import HostScript.Proofs.Json.Depth
import HostScript.Proofs.Source.Lexemes

/-!
# JSON documents

The grammar of JSON text as relations. `Value text rest tree` says that `text` starts with a value
that stands for `tree` and goes on with `rest`. Blanks may stand between all tokens, a tree keeps
every entry of every object, and a number must be in the range of doubles. Start with `Document`.
-/

namespace HostScript

namespace Grammar.Blanks

variable {text rest : List Char}

/-- Blanks are separators. -/
theorem exists_separators (h : Blanks text rest) :
    ∃ blanks, (∀ char ∈ blanks, Text.isSeparator char = true) ∧ text = blanks ++ rest := by
  obtain ⟨blanks, hblanks, htext⟩ := h
  exact ⟨blanks, fun char hchar => (Text.isSeparator_iff char).2 (hblanks char hchar), htext⟩

/-- Blanks leave a rest that is no longer than the text. -/
theorem length_le (h : Blanks text rest) : rest.length ≤ text.length := by
  obtain ⟨blanks, -, rfl⟩ := h
  rw [List.length_append]
  omega

end Grammar.Blanks

namespace Json

open Grammar (Blanks Sign)
open Reader (hexQuad? letterEscape? surrogatePair NumberEnds)

/-! ## Tokens -/

/-- The characters of a string up to its closing quote. A pair of escapes for surrogates stands for
one character, and an escape for a surrogate alone is not allowed. -/
inductive Chars : (text rest chars : List Char) → Prop where
  | close (rest) : Chars ('"' :: rest) rest []
  | plain (char text rest chars) : char ≠ '"' → char ≠ '\\' → 32 ≤ char.toNat →
      Chars text rest chars → Chars (char :: text) rest (char :: chars)
  | letter (letter char text rest chars) : letterEscape? letter = some char →
      Chars text rest chars → Chars ('\\' :: letter :: text) rest (char :: chars)
  | code (a b c d code text rest chars) : hexQuad? a b c d = some code →
      code < 0xD800 ∨ 0xE000 ≤ code → Chars text rest chars →
      Chars ('\\' :: 'u' :: a :: b :: c :: d :: text) rest (Char.ofNat code :: chars)
  | pair (a b c d e f g h leading trailing text rest chars) : hexQuad? a b c d = some leading →
      0xD800 ≤ leading → leading < 0xDC00 → hexQuad? e f g h = some trailing →
      0xDC00 ≤ trailing → trailing < 0xE000 → Chars text rest chars →
      Chars ('\\' :: 'u' :: a :: b :: c :: d :: '\\' :: 'u' :: e :: f :: g :: h :: text) rest
        (surrogatePair leading trailing :: chars)

/-- At least one digit. -/
def IsDigits (digits : List Char) : Prop :=
  digits ≠ [] ∧ ∀ char ∈ digits, char.isDigit = true

/-- A point with digits, or nothing. -/
inductive Fraction : (text : List Char) → Option (List Char) → Prop where
  | none : Fraction [] none
  | some (digits) : IsDigits digits → Fraction ('.' :: digits) (some digits)

/-- A mark with a power of ten that may have a sign, or nothing. -/
inductive Power : (text : List Char) → Option Int → Prop where
  | none : Power [] none
  | some (mark sign negative digits) : mark = 'e' ∨ mark = 'E' → Sign sign negative →
      IsDigits digits → Power (mark :: (sign ++ digits))
        (some (if negative then -(Nat.ofDigitChars 10 digits 0 : Int)
          else Nat.ofDigitChars 10 digits 0))

/-- The text of a number: digits without needless zeros in front, perhaps a minus sign before them,
and perhaps a fraction and a power of ten after them. -/
def Numeral (token : List Char) (number : Number) : Prop :=
  ∃ negative whole fractionText fraction powerText power, IsWhole whole ∧
    Fraction fractionText fraction ∧ Power powerText power ∧
    token = (if negative then ['-'] else []) ++ (whole ++ (fractionText ++ powerText)) ∧
    number = .ofParts negative whole fraction power ∧ number.inRange = true

/-! ## Values -/

/-- Where the next item of a list starts: at once if it is the first one, and after a comma
otherwise. -/
def ItemStart (first : Bool) (text start : List Char) : Prop :=
  if first then Blanks text start else ∃ after, Blanks text (',' :: after) ∧ Blanks after start

/-- Items between commas up to a closing bracket, the first of which may be still to come. -/
inductive Listed {β : Type} (close : Char) (R : List Char → List Char → β → Prop) :
    Bool → List Char → List Char → List β → Prop where
  | done (first text rest) : Blanks text (close :: rest) → Listed close R first text rest []
  | next (first text start finish rest item items) : ItemStart first text start →
      R start finish item → Listed close R false finish rest items →
      Listed close R first text rest (item :: items)

/-- A key with its item. -/
inductive Entry (R : List Char → List Char → Json → Prop) :
    List Char → List Char → String × Json → Prop where
  | intro (text afterKey afterColon start rest chars item) : Chars text afterKey chars →
      Blanks afterKey (':' :: afterColon) → Blanks afterColon start → R start rest item →
      Entry R ('"' :: text) rest (String.ofList chars, item)

/-- A value. -/
inductive Value : List Char → List Char → Json → Prop where
  | null (rest) : Value ('n' :: 'u' :: 'l' :: 'l' :: rest) rest .null
  | trueWord (rest) : Value ('t' :: 'r' :: 'u' :: 'e' :: rest) rest (.boolean true)
  | falseWord (rest) : Value ('f' :: 'a' :: 'l' :: 's' :: 'e' :: rest) rest (.boolean false)
  | number (token rest number) : Numeral token number → Value (token ++ rest) rest (.number number)
  | string (text rest chars) : Chars text rest chars →
      Value ('"' :: text) rest (.string (String.ofList chars))
  | array (inner rest items) : Listed ']' Value true inner rest items →
      Value ('[' :: inner) rest (.array items)
  | object (inner rest entries) : Listed '\x7d' (Entry Value) true inner rest entries →
      Value ('\x7b' :: inner) rest (.object entries)

/-- One value with blanks around it and nothing else. -/
def Document (text : List Char) (tree : Json) : Prop :=
  ∃ start finish, Blanks text start ∧ Value start finish tree ∧ Blanks finish []

/-! ## What values start with, and how much they take -/

variable {text mid start finish rest : List Char}

/-- An item may start after more blanks. -/
theorem ItemStart.of_blanks {first : Bool} (h : ItemStart first text mid)
    (hblanks : Blanks mid start) : ItemStart first text start := by
  cases first with
  | true => exact h.trans hblanks
  | false =>
      obtain ⟨after, hcomma, hafter⟩ := h
      exact ⟨after, hcomma, hafter.trans hblanks⟩

/-- A number starts with a minus sign or a digit. -/
theorem Numeral.head {token : List Char} {number : Number} (h : Numeral token number) :
    ∃ first others, token = first :: others ∧ (first = '-' ∨ first.isDigit = true) := by
  obtain ⟨negative, whole, _, _, _, _, ⟨hne, hdigits, -⟩, -, -, rfl, -⟩ := h
  obtain ⟨digit, others, rfl⟩ := List.exists_cons_of_ne_nil hne
  cases negative with
  | true => exact ⟨'-', _, rfl, .inl rfl⟩
  | false => exact ⟨digit, _, rfl, .inr (hdigits digit List.mem_cons_self)⟩

/-- Neither a digit nor a point starts a power of ten. -/
theorem Power.stops {taken : List Char} {power : Option Int} (h : Power taken power)
    (hrest : NumberEnds rest) :
    Text.Stops Char.isDigit (taken ++ rest) ∧ Text.Stops (· == '.') (taken ++ rest) := by
  cases h with
  | none => exact ⟨hrest.digit, hrest.point⟩
  | some mark sign negative digits hmark =>
      rcases hmark with rfl | rfl <;> exact ⟨Text.stops_cons.2 rfl, Text.stops_cons.2 rfl⟩

/-- A digit does not start a fraction. -/
theorem Fraction.stops {taken : List Char} {fraction : Option (List Char)}
    (h : Fraction taken fraction) (hrest : Text.Stops Char.isDigit rest) :
    Text.Stops Char.isDigit (taken ++ rest) := by
  cases h with
  | none => exact hrest
  | some => exact Text.stops_cons.2 rfl

/-- A value starts with a character that only values start with. -/
theorem Value.starts {tree : Json} (h : Value start rest tree) : StartsValue start := by
  cases h with
  | number token rest number hnumeral =>
      obtain ⟨first, others, rfl, rfl | hdigit⟩ := hnumeral.head
      · exact ⟨'-', others ++ rest, rfl, rfl⟩
      · exact ⟨first, others ++ rest, rfl, startsValue_of_isDigit hdigit⟩
  | _ => exact ⟨_, _, rfl, by decide⟩

/-- An entry starts with the quote of its key. -/
theorem Entry.starts {R : List Char → List Char → Json → Prop} {entry : String × Json}
    (h : Entry R start rest entry) : StartsValue start := by
  cases h with
  | intro => exact ⟨'"', _, rfl, rfl⟩

/-- The characters of a string take at least the closing quote. -/
theorem Chars.shrinks {chars : List Char} (h : Chars text rest chars) :
    rest.length < text.length := by
  induction h with
  | close => exact Nat.lt_succ_self _
  | _ => simp only [List.length_cons]; omega

/-- An entry takes at least one character. -/
theorem Entry.shrinks {R : List Char → List Char → Json → Prop} {entry : String × Json}
    (h : Entry R start rest entry)
    (hitem : ∀ start rest item, R start rest item → rest.length < start.length) :
    rest.length < start.length := by
  cases h with
  | intro text afterKey afterColon start rest chars item hchars hcolon hblanks hR =>
      have := hchars.shrinks
      have := hcolon.length_le
      have := hblanks.length_le
      have := hitem _ _ _ hR
      rw [List.length_cons] at *
      omega

namespace Listed

variable {β : Type} {close : Char} {R : List Char → List Char → β → Prop} {first : Bool}
  {items : List β}

/-- A list takes its closing bracket, and every item at least one character. -/
theorem shrinks (h : Listed close R first text rest items)
    (hitem : ∀ start finish, ∀ item ∈ items, R start finish item → finish.length < start.length) :
    rest.length + items.length < text.length := by
  induction h with
  | done first text rest hblanks =>
      exact hblanks.length_le
  | next first text start finish rest item items hstart hfirst _ ih =>
      have hothers := ih fun start finish item hmem =>
        hitem start finish item (List.mem_cons_of_mem _ hmem)
      have hshrinks := hitem _ _ _ List.mem_cons_self hfirst
      have hle : start.length ≤ text.length := by
        cases first with
        | true => exact Grammar.Blanks.length_le hstart
        | false =>
            obtain ⟨after, hcomma, hafter⟩ := hstart
            have := hcomma.length_le
            have := hafter.length_le
            rw [List.length_cons] at *
            omega
      rw [List.length_cons]
      omega

end Listed

/-- What holds of the scalars, and of a list or an object whenever it holds of what is in it, holds
of every value. -/
theorem Value.nestedInduction {motive : List Char → List Char → Json → Prop}
    (scalar : ∀ {start rest tree}, Value start rest tree → tree.depth = 0 → motive start rest tree)
    (array : ∀ {inner rest items}, Listed ']' motive true inner rest items →
      motive ('[' :: inner) rest (.array items))
    (object : ∀ {inner rest entries}, Listed '\x7d' (Entry motive) true inner rest entries →
      motive ('\x7b' :: inner) rest (.object entries))
    {tree : Json} (h : Value start rest tree) : motive start rest tree := by
  refine @Value.rec (fun start rest tree _ => motive start rest tree)
    (fun first text rest items _ => Listed ']' motive first text rest items)
    (fun first text rest entries _ => Listed '\x7d' (Entry motive) first text rest entries)
    (fun text rest entry _ => Entry motive text rest entry)
    (fun rest => scalar (.null rest) rfl) (fun rest => scalar (.trueWord rest) rfl)
    (fun rest => scalar (.falseWord rest) rfl)
    (fun token rest number hnumeral => scalar (.number token rest number hnumeral) rfl)
    (fun text rest chars hchars => scalar (.string text rest chars hchars) rfl)
    (fun _ _ _ _ hitems => array hitems) (fun _ _ _ _ hentries => object hentries)
    (fun _ _ _ hblanks => .done _ _ _ hblanks)
    (fun _ _ _ _ _ _ _ hstart _ _ hitem hitems => .next _ _ _ _ _ _ _ hstart hitem hitems)
    (fun _ _ _ hblanks => .done _ _ _ hblanks)
    (fun _ _ _ _ _ _ _ hstart _ _ hentry hentries => .next _ _ _ _ _ _ _ hstart hentry hentries)
    (fun _ _ _ _ _ _ _ hchars hcolon hblanks _ hitem => .intro _ _ _ _ _ _ _ hchars hcolon hblanks
      hitem) start rest tree h

/-- A value takes at least one character. -/
theorem Value.shrinks {tree : Json} (h : Value start rest tree) : rest.length < start.length := by
  refine h.nestedInduction (motive := fun start rest _ => rest.length < start.length) ?_ ?_ ?_
  · intro start rest tree h hdepth
    cases h with
    | number token rest number hnumeral =>
        obtain ⟨first, others, rfl, -⟩ := hnumeral.head
        simp only [List.length_append, List.length_cons]
        omega
    | string text rest chars hchars => exact Nat.lt_succ_of_lt hchars.shrinks
    | array | object => simp [depth] at hdepth
    | _ => simp only [List.length_cons]; omega
  · intro inner rest items hitems
    have := hitems.shrinks fun _ _ _ _ hitem => hitem
    rw [List.length_cons]
    omega
  · intro inner rest entries hentries
    have := hentries.shrinks fun _ _ _ _ hentry => hentry.shrinks fun _ _ _ hitem => hitem
    rw [List.length_cons]
    omega

/-! ## Brackets that are open at once -/

/-- Blanks open and close nothing. -/
theorem deepest_blanks (h : Blanks text rest) (opened : Nat) :
    deepest .outside opened text = deepest .outside opened rest := by
  obtain ⟨blanks, hblanks, rfl⟩ := h.exists_separators
  exact deepest_plain (fun char hchar => isPlain_of_isSeparator (hblanks char hchar)) opened rest

/-- The way to an item opens and closes nothing. -/
theorem deepest_itemStart {first : Bool} (h : ItemStart first text start) (opened : Nat) :
    deepest .outside opened text = deepest .outside opened start := by
  cases first with
  | true => exact deepest_blanks h opened
  | false =>
      obtain ⟨after, hcomma, hafter⟩ := h
      exact (deepest_blanks hcomma opened).trans (deepest_blanks hafter opened)

/-- A hexadecimal digit is no quote and no backslash. -/
theorem ne_of_hexDigit? {char : Char} {digit : Nat} (h : Reader.hexDigit? char = some digit) :
    char ≠ '"' ∧ char ≠ '\\' := by
  constructor
  · rintro rfl
    cases h
  · rintro rfl
    cases h

/-- Four hexadecimal digits stay inside their string. -/
theorem deepest_hexQuad {a b c d : Char} {code : Nat} (h : hexQuad? a b c d = some code)
    (opened : Nat) (rest : List Char) :
    deepest .inside opened (a :: b :: c :: d :: rest) = deepest .inside opened rest := by
  simp only [hexQuad?, Option.bind_eq_bind, Option.bind_eq_some_iff] at h
  obtain ⟨_, ha, _, hb, _, hc, _, hd, -⟩ := h
  rw [deepest_inside_cons (ne_of_hexDigit? ha).1 (ne_of_hexDigit? ha).2,
    deepest_inside_cons (ne_of_hexDigit? hb).1 (ne_of_hexDigit? hb).2,
    deepest_inside_cons (ne_of_hexDigit? hc).1 (ne_of_hexDigit? hc).2,
    deepest_inside_cons (ne_of_hexDigit? hd).1 (ne_of_hexDigit? hd).2]

/-- Brackets inside of a string open no level. -/
theorem Chars.deepest {chars : List Char} (h : Chars text rest chars) (opened : Nat) :
    deepest .inside opened text = Json.deepest .outside opened rest := by
  induction h with
  | close rest => rfl
  | plain char text rest chars hquote hslash _ _ ih =>
      rw [deepest_inside_cons hquote hslash, ih]
  | letter letter char text rest chars _ _ ih => exact ih
  | code a b c d code text rest chars hcode _ _ ih =>
      exact (deepest_hexQuad hcode opened text).trans ih
  | pair a b c d e f g h leading trailing text rest chars hleading _ _ htrailing _ _ _ ih =>
      have htrailing := (deepest_hexQuad htrailing opened text).trans ih
      exact (deepest_hexQuad hleading opened _).trans htrailing

/-- The characters of a number are plain. -/
theorem Numeral.plain {token : List Char} {number : Number} (h : Numeral token number) :
    ∀ char ∈ token, isPlain char = true := by
  have hdigits {digits : List Char} (hall : ∀ char ∈ digits, char.isDigit = true) :
      ∀ char ∈ digits, isPlain char = true :=
    fun char hchar => isPlain_of_isDigit (hall char hchar)
  obtain ⟨negative, whole, _, _, _, _, ⟨-, hwhole, -⟩, hfraction, hpower, rfl, -⟩ := h
  refine List.forall_mem_append.2 ⟨?_, List.forall_mem_append.2 ⟨hdigits hwhole,
    List.forall_mem_append.2 ⟨?_, ?_⟩⟩⟩
  · cases negative <;> decide
  · cases hfraction with
    | none => exact fun _ h => absurd h List.not_mem_nil
    | some digits hsome => exact List.forall_mem_cons.2 ⟨rfl, hdigits hsome.2⟩
  · cases hpower with
    | none => exact fun _ h => absurd h List.not_mem_nil
    | some mark sign negative digits hmark hsign hsome =>
        refine List.forall_mem_cons.2 ⟨?_, List.forall_mem_append.2 ⟨?_, hdigits hsome.2⟩⟩
        · rcases hmark with rfl | rfl <;> rfl
        · cases hsign <;> decide

/-- A list opens a bracket and whatever its items open. -/
theorem Listed.deepest {β : Type} {close : Char} {R : List Char → List Char → β → Prop}
    {first : Bool} {items : List β} (h : Listed close R first text rest items)
    (hclose : close ∈ [']', '\x7d']) (size : β → Nat) (total : List β → Nat)
    (hnil : total [] = 0)
    (hcons : ∀ item items, total (item :: items) = max (size item) (total items))
    (hitem : ∀ start finish item, R start finish item → ∀ opened,
      Json.deepest .outside opened start =
        max (opened + size item) (Json.deepest .outside opened finish)) (opened : Nat) :
    Json.deepest .outside (opened + 1) text =
      max (opened + 1 + total items) (Json.deepest .outside opened rest) := by
  induction h with
  | done first text rest hblanks =>
      rw [deepest_blanks hblanks, hnil]
      simp only [List.mem_cons, List.not_mem_nil, or_false] at hclose
      rcases hclose with rfl | rfl <;> rfl
  | next first text start finish rest item items hstart hR _ ih =>
      rw [deepest_itemStart hstart, hitem _ _ _ hR, ih, hcons]
      omega

/-- A value opens as many brackets at once as its tree is deep. -/
theorem Value.deepest {tree : Json} (h : Value start rest tree) (opened : Nat) :
    Json.deepest .outside opened start =
      max (opened + tree.depth) (Json.deepest .outside opened rest) := by
  refine h.nestedInduction (motive := fun start rest tree => ∀ opened,
    Json.deepest .outside opened start =
      max (opened + tree.depth) (Json.deepest .outside opened rest)) ?_ ?_ ?_ opened
  · intro start rest tree h hdepth opened
    rw [hdepth, Nat.add_zero, Nat.max_eq_right (le_deepest ..)]
    cases h with
    | number token rest number hnumeral => exact deepest_plain hnumeral.plain opened rest
    | string text rest chars hchars => exact hchars.deepest opened
    | array | object => simp [depth] at hdepth
    | _ => rfl
  · intro inner rest items hitems opened
    have hinner := hitems.deepest (by decide) depth depthItems rfl (fun _ _ => rfl)
      (fun _ _ _ hitem => hitem) opened
    rw [depth, ← Nat.add_assoc, Nat.add_right_comm, ← hinner]
    rfl
  · intro inner rest entries hentries opened
    have hentry : ∀ start finish entry, Entry (fun start rest tree => ∀ opened,
        Json.deepest .outside opened start =
          max (opened + tree.depth) (Json.deepest .outside opened rest)) start finish entry →
        ∀ opened, Json.deepest .outside opened start =
          max (opened + entry.2.depth) (Json.deepest .outside opened finish) := by
      rintro _ _ _ ⟨text, afterKey, afterColon, start, rest, chars, item, hchars, hcolon, hblanks,
        hitem⟩ opened
      show Json.deepest .inside opened text = _
      rw [hchars.deepest, deepest_blanks hcolon]
      exact (deepest_blanks hblanks opened).trans (hitem opened)
    have hinner := hentries.deepest (by decide) (·.2.depth) depthEntries rfl
      (fun _ _ => rfl) hentry opened
    rw [depth, ← Nat.add_assoc, Nat.add_right_comm, ← hinner]
    rfl

/-- A document opens as many brackets at once as its tree is deep. -/
theorem Document.openAtOnce {text : String} {tree : Json} (h : Document text.toList tree) :
    openAtOnce text = tree.depth := by
  obtain ⟨start, finish, hbefore, hvalue, hafter⟩ := h
  rw [Json.openAtOnce, deepest_blanks hbefore, hvalue.deepest, deepest_blanks hafter]
  simp [Json.deepest]

end Json

end HostScript
