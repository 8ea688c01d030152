import HostScript.Proofs.Source.Actions
import HostScript.Proofs.Source.Viable

/-!
# Failures are at places that can be mended

At every moment of a parse the text up to the cursor is viable, and what would make it a program is
known: a phrase that is awaited at the cursor, and a text that closes everything that is open
(`Awaits`). A parser that fails at such a place records a place up to which the text is viable. This
is stated as a triple (`Mends`) and, for the parser of a whole phrase, as `Fluent`; there is one
rule for each way to put parsers together and one lemma for each parser of the grammar. Start with
`compile_error_mendable`.
-/

namespace HostScript

open Grammar

namespace Scanner

/-- The text up to the furthest failure can be completed. -/
def Mendable (scanner : Scanner) : Prop :=
  Viable (scanner.text.take scanner.furthest)

/-- The text before the cursor can be completed: it becomes a program with the phrase `R` and some
text that closes what is open. -/
def Awaits (R : Phrase) (scanner : Scanner) : Prop :=
  ∃ text, scanner.text = text ++ scanner.rest ∧ scanner.offset = text.length ∧ Viable text ∧
    ∃ close, Text.Stops isNamePart close ∧ ∀ start, Fits scanner.rest start → R start close →
      ∃ program, Derives (text ++ start) program

/-- A failure that is recorded at a viable place can be mended. -/
theorem Mendable.expectAt {scanner : Scanner} (h : scanner.Mendable) {offset : Nat}
    (hviable : Viable (scanner.text.take offset)) (label : String) :
    (scanner.expectAt offset label).Mendable := by
  unfold Scanner.expectAt
  split
  · exact hviable
  · split <;> exact h

/-- What an action leaves can be mended if its failure is at a viable place. -/
theorem Mendable.perform {scanner : Scanner} (h : scanner.Mendable) (hcoherent : scanner.Coherent)
    {action : Action}
    (hplace : ∀ offset label, action.failure? scanner = some (offset, label) →
      Viable (scanner.text.take offset)) : (action.perform scanner).Mendable := by
  have hleaves := leaves_perform action hcoherent
  cases hfailure : action.failure? scanner with
  | none =>
      rw [hfailure] at hleaves
      obtain ⟨htext, -, hfurthest, -⟩ := hleaves
      unfold Mendable
      rwa [htext, hfurthest]
  | some failure =>
      rw [hfailure] at hleaves
      rw [hleaves]
      exact h.expectAt (hplace _ _ hfailure) _

/-- Where a scanner stands after it has moved over some characters. -/
theorem Reaches.stands {scanner next : Scanner} {text taken : List Char}
    (hreach : scanner.Reaches next) (htext : scanner.text = text ++ scanner.rest)
    (hoffset : scanner.offset = text.length) (hrest : scanner.rest = taken ++ next.rest) :
    next.text = text ++ taken ++ next.rest ∧ next.offset = (text ++ taken).length := by
  obtain ⟨hnextText, count, hcount, hnextOffset, hnextRest⟩ := hreach
  have hlength := congrArg List.length hrest
  rw [hnextRest, List.length_append, List.length_drop] at hlength
  refine ⟨?_, ?_⟩
  · rw [hnextText, htext, List.append_assoc, ← hrest]
  · rw [hnextOffset, hoffset, List.length_append]
    omega

namespace Awaits

variable {A R S : Phrase} {scanner next : Scanner}

/-- Awaiting more phrases is stronger. -/
theorem of_le (h : scanner.Awaits R) (hle : S ≤ R) : scanner.Awaits S := by
  obtain ⟨text, htext, hoffset, hviable, close, hclose, hcomplete⟩ := h
  exact ⟨text, htext, hoffset, hviable, close, hclose,
    fun start hfits hS => hcomplete start hfits (hle _ _ hS)⟩

/-- Only the cursor counts. -/
theorem congr (h : scanner.Awaits R) (htext : next.text = scanner.text)
    (hoffset : next.offset = scanner.offset) (hrest : next.rest = scanner.rest) :
    next.Awaits R := by
  unfold Awaits
  rwa [htext, hoffset, hrest]

/-- The text before the cursor is viable. -/
theorem viable (h : scanner.Awaits R) : Viable (scanner.text.take scanner.offset) := by
  obtain ⟨text, htext, hoffset, hviable, -⟩ := h
  rwa [htext, hoffset, List.take_left]

/-- A scanner that awaits something is coherent. -/
theorem coherent (h : scanner.Awaits R) : scanner.Coherent := by
  obtain ⟨text, htext, hoffset, -⟩ := h
  unfold Coherent
  rw [htext, hoffset, List.drop_left]

/-- After a phrase that stands at the cursor, what follows it is awaited. -/
theorem follow [hS : Writable S] (h : scanner.Awaits (Then A S)) (hreach : scanner.Reaches next)
    (hport : Portable A scanner.rest next.rest) : next.Awaits S := by
  obtain ⟨text, htext, hoffset, -, close, hclose, hcomplete⟩ := h
  obtain ⟨taken, hrest, hport⟩ := hport
  obtain ⟨hnextText, hnextOffset⟩ := hreach.stands htext hoffset hrest
  have hgo : ∀ start, Fits next.rest start → S start close →
      ∃ program, Derives (text ++ taken ++ start) program := by
    intro start hfits hstart
    rw [List.append_assoc]
    exact hcomplete _ (hrest ▸ hfits.append taken) ⟨start, hport start hfits, hstart⟩
  obtain ⟨start, hstops, hstart⟩ := hS.exists_start close hclose
  exact ⟨text ++ taken, hnextText, hnextOffset, ⟨start, hgo start (fits_of_stops hstops) hstart⟩,
    close, hclose, hgo⟩

/-- After a character nothing is asked of the text that follows. -/
theorem follow_mark {char : Char} (h : scanner.Awaits (Then (Mark char) S))
    (hreach : scanner.Reaches next) (hrest : scanner.rest = char :: next.rest)
    (hS : ∀ close, Text.Stops isNamePart close → ∃ start, S start close) : next.Awaits S := by
  obtain ⟨text, htext, hoffset, -, close, hclose, hcomplete⟩ := h
  have hsplit : scanner.rest = [char] ++ next.rest := hrest
  obtain ⟨hnextText, hnextOffset⟩ := hreach.stands htext hoffset hsplit
  have hgo : ∀ start, S start close → ∃ program, Derives (text ++ [char] ++ start) program := by
    intro start hstart
    have hfits : Fits scanner.rest (char :: start) := by
      rw [hrest]
      exact fun hstops => Text.stops_cons.2 (Text.stops_cons.1 hstops)
    rw [List.append_assoc]
    exact hcomplete _ hfits ⟨start, rfl, hstart⟩
  obtain ⟨start, hstart⟩ := hS close hclose
  exact ⟨text ++ [char], hnextText, hnextOffset, ⟨start, hgo start hstart⟩, close, hclose,
    fun start _ => hgo start⟩

/-- A phrase that is begun at the cursor and can be completed leaves the text viable. -/
theorem viable_begun [hS : Writable S] (h : scanner.Awaits (Then A S)) {first : Char}
    {others rest : List Char} (hrest : scanner.rest = first :: others ++ rest) (more : List Char)
    (hA : ∀ other, A (first :: others ++ (more ++ other)) other) :
    Viable (scanner.text.take (scanner.offset + (first :: others).length)) := by
  obtain ⟨text, htext, hoffset, -, close, hclose, hcomplete⟩ := h
  obtain ⟨start, -, hstart⟩ := hS.exists_start close hclose
  have hfits : Fits scanner.rest (first :: others ++ (more ++ start)) := by
    rw [hrest]
    exact fun hstops => Text.stops_cons.2 (Text.stops_cons.1 hstops)
  obtain ⟨program, hderives⟩ := hcomplete _ hfits ⟨start, hA start, hstart⟩
  refine ⟨more ++ start, program, ?_⟩
  rw [htext, hrest, hoffset, ← List.length_append, ← List.append_assoc text, List.take_left,
    List.append_assoc]
  exact hderives

/-- A lexeme that fails stays. -/
theorem stay {α : Type} {p : Parser α} (h : scanner.Awaits R) (hlexeme : p.Lexeme)
    (hrun : p scanner = (none, next)) : next.Awaits R := by
  have hrest := hlexeme.stays hrun
  have hreach := hlexeme.reaches scanner
  rw [hrun] at hreach
  obtain ⟨htext, count, hcount, hoffset, hdrop⟩ := hreach
  have hlength := congrArg List.length (hdrop.symm.trans hrest)
  rw [List.length_drop] at hlength
  exact h.congr htext (hoffset.trans (by omega)) hrest

end Awaits

end Scanner

namespace Parser

open Scanner (Action Mendable Awaits)

variable {α β σ : Type}

/-! ## Triples -/

/-- From scanners with `P` the parser leaves a record that can be mended, and every success has
`Q`. -/
def Mends (P : Scanner → Prop) (p : Parser α) (Q : α → Scanner → Prop) : Prop :=
  ∀ scanner, P scanner → scanner.Mendable →
    (p scanner).2.Mendable ∧ ∀ value next, p scanner = (some value, next) → Q value next

namespace Mends

variable {P P' : Scanner → Prop} {p : Parser α} {Q Q' : α → Scanner → Prop}
  {T : β → Scanner → Prop}

/-- A parser that mends from more scanners mends from fewer. -/
theorem pre (h : Mends P p Q) (hpre : ∀ scanner, P' scanner → P scanner) : Mends P' p Q :=
  fun scanner hP => h scanner (hpre scanner hP)

/-- A parser that leaves more than is asked for mends. -/
theorem post (h : Mends P p Q) (hpost : ∀ value next, Q value next → Q' value next) :
    Mends P p Q' := by
  intro scanner hP hmendable
  obtain ⟨hnext, hvalue⟩ := h scanner hP hmendable
  exact ⟨hnext, fun value next hrun => hpost value next (hvalue value next hrun)⟩

/-- Awaiting more phrases is a stronger condition. -/
theorem of_le {R R' : Phrase} (h : Mends (Awaits R) p Q) (hle : R ≤ R') : Mends (Awaits R') p Q :=
  h.pre fun _ hawaits => hawaits.of_le hle

/-- A success that reads nothing mends. -/
theorem succeed (value : α) (h : ∀ scanner, P scanner → Q value scanner) :
    Mends P (succeed value) Q := by
  intro scanner hP hmendable
  refine ⟨hmendable, fun found next hrun => ?_⟩
  cases hrun
  exact h scanner hP

/-- A failure mends: it reads nothing and has no value. -/
theorem fail : Mends P (fail : Parser α) Q :=
  fun _ _ hmendable => ⟨hmendable, fun _ _ hrun => by cases hrun⟩

/-- A committed choice goes on from what the first parser leaves. -/
theorem commit {yes : α → Parser β} {no : Parser β} (h : Mends P p Q)
    (hyes : ∀ value, Mends (Q value) (yes value) T)
    (hno : Mends (fun next => ∃ scanner, P scanner ∧ p scanner = (none, next)) no T) :
    Mends P (commit p yes no) T := by
  intro scanner hP hmendable
  obtain ⟨hnext, hvalue⟩ := h scanner hP hmendable
  unfold Parser.commit
  split
  · next value next heq =>
      rw [heq] at hnext
      exact hyes value next (hvalue value next heq) hnext
  · next next heq =>
      rw [heq] at hnext
      exact hno next ⟨scanner, hP, heq⟩ hnext

/-- Parsers after each other mend. -/
theorem bind {f : α → Parser β} (h : Mends P p Q) (hf : ∀ value, Mends (Q value) (f value) T) :
    Mends P (p >>= f) T :=
  h.commit hf fail

/-- A recursive parser is one whose body is whenever the nested calls are. -/
theorem fix {ι : Type} {body : (σ → Parser α) → σ → Parser α} {P : ι → σ → Scanner → Prop}
    {Q : ι → α → Scanner → Prop}
    (hbody : ∀ f : σ → Parser α, (∀ index state, Mends (P index state) (f state) (Q index)) →
      ∀ index state, Mends (P index state) (body f state) (Q index)) (index : ι) (state : σ) :
    Mends (P index state) (fix body state) (Q index) := by
  refine fun scanner => fix_run (motive := fun state scanner result => ∀ index,
    P index state scanner → scanner.Mendable → result.2.Mendable ∧
      ∀ value next, result = (some value, next) → Q index value next) ?_ ?_ state scanner index
  · exact fun _ _ _ _ hmendable => ⟨hmendable, fun _ _ hrun => by cases hrun⟩
  · exact fun f hf state scanner index =>
      hbody f (fun index state scanner => hf state scanner index) index state scanner

/-- Skipped blanks are followed by what was awaited after blanks. -/
theorem skipBlanks {S : Phrase} [Writable (Then Blanks S)] :
    Mends (Awaits (Then Blanks S)) skipBlanks fun _ => Awaits S := by
  intro scanner hawaits hmendable
  refine ⟨hmendable, fun value next hrun => ?_⟩
  cases hrun
  -- The blanks may be followed by more blanks, so the text after them is still viable.
  have hmore := hawaits.of_le (blanks_then_blanks_le S)
  have hnext := hmore.follow scanner.reaches_skipBlanks (blanks_skipBlanks scanner).portable
  exact hnext.of_le (le_then_of_here_le here_le_blanks S)

/-- A lexeme that fails stays, so the second choice starts where the first one did. -/
theorem commit_lexeme {R : Phrase} {Q : α → Scanner → Prop} {yes : α → Parser β} {no : Parser β}
    (hlexeme : Lexeme p) (h : Mends (Awaits R) p Q)
    (hyes : ∀ value, Mends (Q value) (yes value) T) (hno : Mends (Awaits R) no T) :
    Mends (Awaits R) (Parser.commit p yes no) T := by
  refine h.commit hyes (hno.pre ?_)
  rintro next ⟨scanner, hawaits, hrun⟩
  exact hawaits.stay hlexeme hrun

end Mends

/-! ## Parsers of phrases -/

/-- Where a phrase is awaited and then something that is writable, the parser of the phrase leaves a
record that can be mended, and after a success the rest is awaited. -/
def Fluent (p : Parser α) (A : Phrase) : Prop :=
  ∀ (S : Phrase) [Writable S], Mends (Awaits (Then A S)) p fun _ => Awaits S

namespace Fluent

variable {p : Parser α} {A B R : Phrase}

/-- A fluent parser is fluent for a phrase with more texts. -/
theorem of_le (h : Fluent p A) (hle : A ≤ R) : Fluent p R := fun S _ =>
  (h S).of_le (then_mono hle (le_refl S))

/-- A success that reads nothing is fluent for what can be empty. -/
theorem succeed (value : α) (h : Here ≤ R) : Fluent (succeed value) R := fun S _ =>
  .succeed value fun _ hawaits => hawaits.of_le (le_then_of_here_le h S)

/-- A failure is fluent for every phrase. -/
theorem fail : Fluent (fail : Parser α) R :=
  fun _ _ => .fail

/-- Parsers after each other are fluent for the sequence of their phrases. -/
theorem bind {f : α → Parser β} (h : Fluent p A) (hf : ∀ value, Fluent (f value) B) [Writable B] :
    Fluent (p >>= f) (Then A B) := by
  intro S _
  rw [then_assoc]
  exact (h (Then B S)).bind fun value => hf value S

/-- A value that is returned takes no text. -/
theorem map (h : Fluent p A) (f : α → β) : Fluent (p >>= fun value => pure (f value)) A :=
  fun S _ => (h S).bind fun value => .succeed (f value) fun _ hawaits => hawaits

/-- Blanks before a phrase keep its parser fluent. -/
theorem skipBlanks {f : Unit → Parser α} (h : Fluent (f ()) B) [Writable (Then Blanks B)] :
    Fluent (Parser.skipBlanks >>= f) (Then Blanks B) := by
  intro S _
  have hwritable : Writable (Then Blanks (Then B S)) := by
    rw [← then_assoc]
    infer_instance
  rw [then_assoc]
  exact Mends.skipBlanks.bind fun _ => h S

/-- Either a phrase with what follows it, or another phrase that starts at the same place. -/
theorem commit {yes : α → Parser β} {no : Parser β} (hlexeme : Lexeme p) (h : Fluent p A)
    (hyes : ∀ value, Fluent (yes value) B) [Writable B] (hle : Then A B ≤ R) (hno : Fluent no R) :
    Fluent (commit p yes no) R := by
  intro S _
  have hfirst : Mends (Awaits (Then R S)) p fun _ => Awaits (Then B S) := by
    refine (h (Then B S)).of_le ?_
    rw [← then_assoc]
    exact then_mono hle (le_refl S)
  exact hfirst.commit_lexeme hlexeme (fun value => hyes value S) (hno S)

/-- Either a phrase after blanks, or another phrase that starts before them. -/
theorem afterBlanks {yes : α → Parser β} {no : Parser β} (hlexeme : Lexeme p) (h : Fluent p A)
    (hyes : ∀ value, Fluent (yes value) B) [Writable B] [Writable (Then Blanks (Then A B))]
    (hle : Then Blanks (Then A B) ≤ R) (hno : Fluent no R) :
    Fluent (afterBlanks p yes no) R := by
  intro S _ scanner hawaits hmendable
  have hwritable : Writable (Then Blanks (Then A (Then B S))) := by
    rw [← then_assoc A, ← then_assoc]
    infer_instance
  have hspaced : scanner.Awaits (Then Blanks (Then A (Then B S))) := by
    refine hawaits.of_le ?_
    rw [← then_assoc A, ← then_assoc]
    exact then_mono hle (le_refl S)
  have hstart : scanner.skipBlanks.Awaits (Then A (Then B S)) :=
    (Mends.skipBlanks scanner hspaced hmendable).2 () _ rfl
  rw [afterBlanks_apply]
  refine Mends.commit (P := (· = scanner.skipBlanks)) (T := fun _ => Awaits S)
    ?_ (fun value => hyes value S) ?_ _ rfl hmendable
  · rintro _ rfl hmendable
    exact h (Then B S) _ hstart hmendable
  · rintro next ⟨_, rfl, hrun⟩ hmendable
    have hreach := scanner.reaches_skipBlanks.trans (hlexeme.reaches scanner.skipBlanks)
    rw [hrun] at hreach
    exact hno S _ (hawaits.congr hreach.1 rfl rfl) hmendable

/-- A recursion is fluent if each of its steps is. -/
theorem fix {body : (σ → Parser α) → σ → Parser α}
    (hbody : ∀ f : σ → Parser α, (∀ state, Fluent (f state) R) → ∀ state, Fluent (body f state) R)
    (state : σ) : Fluent (fix body state) R := by
  intro S hS
  refine Mends.fix (P := fun index _ => Awaits (Then R index.1))
    (Q := fun index _ => Awaits index.1) (fun f hf index state => ?_)
    (⟨S, hS⟩ : { S : Phrase // Writable S }) state
  have := index.2
  exact hbody f (fun state T hT => hf ⟨T, hT⟩ state) state index.1

end Fluent

/-! ## Lexemes -/

/-- The parser of a lexeme is fluent if its failures are at viable places. -/
theorem Fluent.of_action {p : Parser α} {A : Phrase} (action : Action)
    (hperform : ∀ scanner, (p scanner).2 = action.perform scanner) (hlexeme : Lexeme p)
    (hport : ∀ {scanner next value}, p scanner = (some value, next) →
      Portable A scanner.rest next.rest)
    (hplace : ∀ {S : Phrase} [Writable S] {scanner : Scanner} {offset label},
      scanner.Awaits (Then A S) → action.failure? scanner = some (offset, label) →
        Viable (scanner.text.take offset)) : Fluent p A := by
  intro S _ scanner hawaits hmendable
  refine ⟨?_, fun value next hrun => ?_⟩
  · rw [hperform]
    exact hmendable.perform hawaits.coherent fun _ _ hfailure => hplace hawaits hfailure
  · have hreach := hlexeme.reaches scanner
    rw [hrun] at hreach
    exact hawaits.follow hreach (hport hrun)

/-- A refusal is a failure of the parser. -/
theorem refusal_eq_some {p : Parser α} {scanner : Scanner} {failure found : Failure}
    (h : Action.refusal p scanner failure = some found) :
    found = failure ∧ (p scanner).1 = none := by
  unfold Action.refusal at h
  split at h
  · cases h
  · next hnone =>
      cases h
      exact ⟨rfl, by simpa using hnone⟩

/-- Most lexemes are missed at the cursor, whatever is awaited there. -/
theorem mendable_of_refusal {p : Parser α} {R : Phrase} {scanner : Scanner} (action : Action)
    {label : String} (hawaits : scanner.Awaits R) (hmendable : scanner.Mendable)
    (hfailure : action.failure? scanner = Action.refusal p scanner (scanner.offset, label)) :
    (action.perform scanner).Mendable := by
  refine hmendable.perform hawaits.coherent fun offset found h => ?_
  rw [hfailure] at h
  cases (refusal_eq_some h).1
  exact hawaits.viable

/-- A lexeme that is missed at the cursor is fluent. -/
theorem Fluent.of_refusal {p : Parser α} {A : Phrase} (action : Action) (label : String)
    (hperform : ∀ scanner, (p scanner).2 = action.perform scanner)
    (hfailure : ∀ scanner,
      action.failure? scanner = Action.refusal p scanner (scanner.offset, label))
    (hlexeme : Lexeme p)
    (hport : ∀ {scanner next value}, p scanner = (some value, next) →
      Portable A scanner.rest next.rest) : Fluent p A := by
  refine .of_action action hperform hlexeme hport fun {S _ scanner offset found} hawaits h => ?_
  rw [hfailure] at h
  cases (refusal_eq_some h).1
  exact hawaits.viable

/-- The parser of a word is fluent. -/
theorem word_fluent {wanted : String} (hne : 0 < wanted.length) :
    Fluent (word wanted) (Word wanted) :=
  .of_refusal (.word wanted) _ (fun _ => rfl) (fun _ => rfl) (word_lexeme hne)
    fun hrun => ((reads_word hne).sound hrun).portable

/-- The parser of names is fluent. -/
theorem identifier_fluent : Fluent identifier Named :=
  .of_refusal .identifier _ (fun _ => rfl) (fun _ => rfl) identifier_lexeme
    fun hrun => (reads_identifier.sound hrun).portable.mono fun _ _ hname => ⟨_, hname⟩

/-- A character in front of a text is a mark. -/
theorem portable_mark {char : Char} {text rest : List Char} (h : text = char :: rest) :
    Portable (Mark char) text rest :=
  ⟨[char], h, fun _ _ => rfl⟩

/-- The parser of one character is fluent. -/
theorem char_fluent (wanted : Char) : Fluent (char wanted) (Mark wanted) :=
  .of_refusal (.char wanted) _ (fun _ => rfl) (fun _ => rfl) (char_lexeme wanted)
    fun hrun => portable_mark ((reads_char wanted).sound hrun)

/-- The parser of the equals sign of an assignment is fluent. -/
theorem assignSign_fluent : Fluent assignSign (Mark '=') :=
  .of_refusal .assignSign _ (fun _ => rfl) (fun _ => rfl) assignSign_lexeme
    fun hrun => portable_mark (reads_assignSign.sound hrun).1

/-- After a character a name may follow at once. -/
theorem char_mends_name {wanted : Char} {S : Phrase} [hS : Writable S] :
    Mends (Awaits (Then (Mark wanted) (Then Named S))) (char wanted)
      fun _ => Awaits (Then Named S) := by
  intro scanner hawaits hmendable
  refine ⟨?_, fun value next hrun => ?_⟩
  · exact mendable_of_refusal (.char wanted) hawaits hmendable rfl
  · have hreach := (char_lexeme wanted).reaches scanner
    rw [hrun] at hreach
    refine hawaits.follow_mark hreach ((reads_char wanted).sound hrun) fun close hclose => ?_
    obtain ⟨start, hstart, hS⟩ := hS.exists_start close hclose
    exact ⟨'a' :: start, start, named_cons hstart, hS⟩

/-- The parser of an operator is fluent for its spelling. -/
theorem operator_fluent (operator : Operator) :
    Fluent (Parser.operator operator) (Spelled operator) := by
  have hport {scanner next : Scanner} {value : Unit}
      (hrun : Parser.operator operator scanner = (some value, next)) :
      Portable (Spelled operator) scanner.rest next.rest :=
    ((reads_operator operator).sound hrun).portable
  have hlexeme := (reads_operator operator).lexeme
  cases operator with
  | and | or => exact .of_refusal (.word _) _ (fun _ => rfl) (fun _ => rfl) hlexeme hport
  | _ => exact .of_refusal (.symbol _) _ (fun _ => rfl) (fun _ => rfl) hlexeme hport

/-- The parser of some operators is fluent for their spellings. -/
theorem operatorOf_fluent (operators : List Operator) :
    Fluent (operatorOf operators) (SpelledIn operators) := by
  induction operators with
  | nil => exact .fail
  | cons first others ih =>
      refine .commit (reads_operator first).lexeme (operator_fluent first)
        (fun _ => .succeed first (le_refl Here)) ?_ (ih.of_le ?_)
      · exact then_here_le fun _ _ hspelled => ⟨first, List.mem_cons_self, hspelled⟩
      · rintro text rest ⟨operator, hmem, hspelled⟩
        exact ⟨operator, List.mem_cons_of_mem _ hmem, hspelled⟩

/-- A string that is not closed can be closed at the end of the text. -/
theorem string_fluent : Fluent string Quoted := by
  refine .of_action .string (fun _ => rfl) string_lexeme (fun {scanner next value} hrun => ?_)
    fun {S hS scanner offset label} hawaits h => ?_
  · obtain ⟨hquote, hrest⟩ := reads_string.sound hrun
    exact ⟨'"' :: value.toList ++ ['"'], by simpa using hrest, fun _ _ => ⟨value, hquote, by simp⟩⟩
  obtain ⟨hfound, hnone⟩ := refusal_eq_some h
  split at hfound
  · next hhead =>
      cases hfound
      obtain ⟨body, hrest⟩ := List.head?_eq_some_iff.1 hhead
      -- A quote in the text that is left would have closed the string.
      have hopen : '"' ∉ body := by
        intro hmem
        obtain ⟨content, after, hbody, hquote⟩ := List.eq_append_cons_of_mem hmem
        have hquoted : scanner.rest =
            '"' :: (String.ofList content).toList ++ '"' :: after := by
          rw [hrest, hbody, String.toList_ofList, List.cons_append]
        obtain ⟨next, -, htaken⟩ := reads_string.takes
          ⟨by rwa [String.toList_ofList], rfl⟩ scanner hquoted
        rw [htaken] at hnone
        cases hnone
      have hwhole : scanner.rest = '"' :: body ++ [] := by simpa using hrest
      have hend := hawaits.viable_begun hwhole ['"']
        fun other => ⟨String.ofList body, by rwa [String.toList_ofList], by simp⟩
      have hlength := congrArg List.length (hrest.symm.trans hawaits.coherent)
      rw [List.length_drop] at hlength
      rwa [List.take_of_length_le (by simp only [List.length_cons] at hlength ⊢; omega)] at hend ⊢
  · cases hfound
    exact hawaits.viable

/-- A number can be written after its sign. -/
theorem number_fluent : Fluent number Number := by
  refine .of_action .number (fun _ => rfl) number_lexeme (fun {scanner next value} hrun => ?_)
    fun {S hS scanner offset label} hawaits h => ?_
  · obtain ⟨literal, hliteral, hrest⟩ := number_sound hrun
    exact ⟨literal, hrest, fun other _ => ⟨literal, value, hliteral, rfl⟩⟩
  have hplace : offset = scanner.offset ∨
      offset = scanner.offset + (signOf scanner.rest).2 := by
    obtain ⟨hfound, -⟩ := refusal_eq_some h
    rw [← Scanner.signOf_length] at hfound
    split at hfound
    · cases hfound
      exact .inl rfl
    · cases hfound
      exact .inr rfl
  obtain ⟨sign, hsign, hrest, hlength⟩ := signOf_sound scanner.rest
  rcases hplace with rfl | rfl
  · exact hawaits.viable
  rw [← hlength]
  generalize (signOf scanner.rest).1 = negative at hsign
  cases hsign with
  | none => exact hawaits.viable
  | plus => exact hawaits.viable_begun hrest ['0'] fun other => number_zero .plus other
  | minus => exact hawaits.viable_begun hrest ['0'] fun other => number_zero .minus other

end Parser

end HostScript
