import HostScript.Source.Lexeme

/-!
# Recursive parsers

`Agree gain count p q` says that two parsers do the same on every scanner with fewer than `count`
characters left, that they never leave the text or move back, and that a success takes at least
`gain` characters. The combinators keep agreement, and what comes after a parser with a positive
gain has to agree on shorter texts only. This is why unrolling is enough: read `fix_eq` first,
which says that a recursive parser whose nested calls start further right is its own body.
-/

namespace HostScript

namespace Scanner

/-- The cursor of `next` stands in the same text as that of `start`, at the same place or further
right, and not past the end. -/
def Reaches (start next : Scanner) : Prop :=
  next.text = start.text ∧ ∃ count ≤ start.rest.length,
    next.offset = start.offset + count ∧ next.rest = start.rest.drop count

/-- Every scanner reaches itself. -/
theorem Reaches.refl (scanner : Scanner) : scanner.Reaches scanner :=
  ⟨rfl, 0, Nat.zero_le _, rfl, rfl⟩

/-- Moving forward twice is moving forward. -/
theorem Reaches.trans {first second third : Scanner} (h : first.Reaches second)
    (hnext : second.Reaches third) : first.Reaches third := by
  obtain ⟨htext, count, hle, hoffset, hrest⟩ := h
  obtain ⟨hnextText, more, hmore, hnextOffset, hnextRest⟩ := hnext
  rw [hrest, List.length_drop] at hmore
  refine ⟨hnextText.trans htext, count + more, by omega, by omega, ?_⟩
  rw [hnextRest, hrest, List.drop_drop]

/-- Moving forward never adds characters. -/
theorem Reaches.length_le {start next : Scanner} (h : start.Reaches next) :
    next.rest.length ≤ start.rest.length := by
  obtain ⟨-, count, -, -, hrest⟩ := h
  rw [hrest, List.length_drop]
  omega

/-- Skipping characters that are there moves forward. -/
theorem reaches_advance {scanner : Scanner} {count : Nat} (h : count ≤ scanner.rest.length) :
    scanner.Reaches (scanner.advance count) :=
  ⟨rfl, count, h, rfl, rfl⟩

/-- Moving on drops characters from the rest. -/
@[simp] theorem rest_advance (scanner : Scanner) (count : Nat) :
    (scanner.advance count).rest = scanner.rest.drop count := rfl

/-- A record of a failure does not move the cursor. -/
theorem expectAt_cursor (offset : Nat) (label : String) (scanner : Scanner) :
    (scanner.expectAt offset label).text = scanner.text ∧
      (scanner.expectAt offset label).offset = scanner.offset ∧
      (scanner.expectAt offset label).rest = scanner.rest := by
  unfold expectAt
  split
  · exact ⟨rfl, rfl, rfl⟩
  · split <;> exact ⟨rfl, rfl, rfl⟩

/-- Recording a failure leaves the rest. -/
@[simp] theorem rest_expectAt (offset : Nat) (label : String) (scanner : Scanner) :
    (scanner.expectAt offset label).rest = scanner.rest :=
  (expectAt_cursor offset label scanner).2.2

/-- A record of a failure stays where the cursor is. -/
theorem reaches_expectAt (offset : Nat) (label : String) (scanner : Scanner) :
    scanner.Reaches (scanner.expectAt offset label) := by
  obtain ⟨htext, hoffset, hrest⟩ := expectAt_cursor offset label scanner
  exact ⟨htext, 0, Nat.zero_le _, hoffset, hrest⟩

/-- Moving back to a place from which a scanner came stays at that place. -/
theorem Reaches.rewind {start next : Scanner} (h : start.Reaches next) :
    start.Reaches (next.rewind start) :=
  ⟨h.1, 0, Nat.zero_le _, rfl, rfl⟩

/-- Skipping blanks drops them from the rest. -/
@[simp] theorem rest_skipBlanks (scanner : Scanner) :
    scanner.skipBlanks.rest = scanner.rest.dropWhile Text.isSeparator := by
  have hsplit := List.takeWhile_append_dropWhile (p := Text.isSeparator) (l := scanner.rest)
  have hdrop := congrArg (List.drop (scanner.rest.takeWhile Text.isSeparator).length) hsplit
  rw [List.drop_left] at hdrop
  exact hdrop.symm

/-- Skipping blanks moves forward. -/
theorem reaches_skipBlanks (scanner : Scanner) : scanner.Reaches scanner.skipBlanks :=
  reaches_advance (List.takeWhile_sublist _).length_le

end Scanner

namespace Parser

variable {α β σ : Type}

/-- Parsers that do the same on scanners with fewer than `count` characters left, only move
forward there, and take at least `gain` characters when they succeed. -/
def Agree (gain count : Nat) (p q : Parser α) : Prop :=
  ∀ scanner : Scanner, scanner.rest.length < count →
    p scanner = q scanner ∧ scanner.Reaches (p scanner).2 ∧
      ((p scanner).1.isSome → (p scanner).2.rest.length + gain ≤ scanner.rest.length)

namespace Agree

variable {gain gain' count count' : Nat} {p q : Parser α}

/-- Agreement on more scanners, or with a larger gain, is stronger. -/
theorem mono (h : Agree gain count p q) (hgain : gain' ≤ gain) (hcount : count' ≤ count) :
    Agree gain' count' p q := by
  intro scanner hlength
  obtain ⟨heq, hreach, htake⟩ := h scanner (by omega)
  exact ⟨heq, hreach, fun hsome => by have := htake hsome; omega⟩

/-- A parser that succeeds in place agrees with itself. -/
theorem succeed (value : α) : Agree 0 count (succeed value) (succeed value) :=
  fun scanner _ => ⟨rfl, .refl scanner, fun _ => Nat.le_refl _⟩

/-- A parser that fails in place agrees with itself, with any gain. -/
theorem fail : Agree gain count (fail : Parser α) fail :=
  fun scanner _ => ⟨rfl, .refl scanner, fun h => by cases h⟩

/-- Blanks are skipped without gain. -/
theorem skipBlanks : Agree 0 count skipBlanks skipBlanks := fun scanner _ =>
  ⟨rfl, scanner.reaches_skipBlanks, fun _ => scanner.reaches_skipBlanks.length_le⟩

/-- Committed choice keeps agreement. After a success the rest of the way starts further right by
the gain of the first parser. -/
theorem commit {yes yes' : α → Parser β} {no no' : Parser β} (h : Agree gain count p q)
    (hyes : ∀ value, Agree (gain' - gain) (count - gain) (yes value) (yes' value))
    (hno : Agree gain' count no no') : Agree gain' count (commit p yes no) (commit q yes' no') := by
  intro scanner hlength
  obtain ⟨heq, hreach, htake⟩ := h scanner hlength
  unfold Parser.commit
  rw [← heq]
  generalize p scanner = result at hreach htake
  obtain ⟨_ | value, next⟩ := result
  · have hle : next.rest.length ≤ scanner.rest.length := hreach.length_le
    obtain ⟨hnoEq, hnoReach, hnoTake⟩ := hno next (by omega)
    refine ⟨hnoEq, hreach.trans hnoReach, fun hsome => ?_⟩
    exact Nat.le_trans (hnoTake hsome) hle
  · have hgain : next.rest.length + gain ≤ scanner.rest.length := htake rfl
    obtain ⟨hyesEq, hyesReach, hyesTake⟩ := hyes value next (by omega)
    refine ⟨hyesEq, hreach.trans hyesReach, fun hsome => ?_⟩
    have hmore : (yes value next).2.rest.length + (gain' - gain) ≤ next.rest.length :=
      hyesTake hsome
    show (yes value next).2.rest.length + gain' ≤ scanner.rest.length
    omega

/-- Sequencing keeps agreement. -/
theorem bind {f g : α → Parser β} (h : Agree gain count p q)
    (hnext : ∀ value, Agree (gain' - gain) (count - gain) (f value) (g value)) :
    Agree gain' count (p >>= f) (q >>= g) :=
  h.commit hnext fail

/-- A recursive parser agrees with another one if their bodies agree whenever the nested calls
agree on shorter texts. -/
theorem unroll {body body' : (σ → Parser α) → σ → Parser α}
    (hbody : ∀ shorter < count, ∀ f g : σ → Parser α,
      (∀ state, Agree gain shorter (f state) (g state)) →
        ∀ state, Agree gain (shorter + 1) (body f state) (body' g state))
    {depth depth' : Nat} (hdepth : count ≤ depth) (hdepth' : count ≤ depth') (state : σ) :
    Agree gain count (unroll body depth state) (unroll body' depth' state) := by
  induction count generalizing depth depth' state with
  | zero => exact fun scanner hlength => absurd hlength (Nat.not_lt_zero _)
  | succ shorter ih =>
      obtain ⟨depth, rfl⟩ : ∃ less, depth = less + 1 := ⟨depth - 1, by omega⟩
      obtain ⟨depth', rfl⟩ : ∃ less, depth' = less + 1 := ⟨depth' - 1, by omega⟩
      refine hbody shorter (Nat.lt_succ_self _) _ _ (fun state => ?_) state
      exact ih (fun less hless => hbody less (by omega)) (by omega) (by omega) state

/-- Fixed points of agreeing bodies agree. -/
theorem fix {body body' : (σ → Parser α) → σ → Parser α}
    (hbody : ∀ shorter < count, ∀ f g : σ → Parser α,
      (∀ state, Agree gain shorter (f state) (g state)) →
        ∀ state, Agree gain (shorter + 1) (body f state) (body' g state)) (state : σ) :
    Agree gain count (fix body state) (fix body' state) := by
  intro scanner hlength
  exact unroll (fun shorter hshorter => hbody shorter (by omega)) (Nat.le_refl _) (Nat.le_refl _)
    state scanner (Nat.lt_succ_self _)

end Agree

/-- A recursive parser is its own body, with the recursive parser itself in the nested calls, if
the body reaches its nested calls only further right. -/
theorem fix_eq {gain : Nat} {body : (σ → Parser α) → σ → Parser α}
    (hbody : ∀ count, ∀ f g : σ → Parser α, (∀ state, Agree gain count (f state) (g state)) →
      ∀ state, Agree gain (count + 1) (body f state) (body g state)) (state : σ) :
    fix body state = body (fix body) state := by
  funext scanner
  refine (hbody scanner.rest.length _ _ (fun state next hlength => ?_) state scanner
    (Nat.lt_succ_self _)).1
  -- Both sides unroll deep enough for `next`, though not equally deep.
  exact Agree.unroll (fun shorter _ => hbody shorter) hlength (Nat.le_refl _) state next
    (Nat.lt_succ_self _)

/-- What every success of the body keeps, given that every success of the nested calls does, every
success of a recursive parser has. -/
theorem fix_success {motive : σ → Scanner → α → Scanner → Prop}
    {body : (σ → Parser α) → σ → Parser α}
    (hbody : ∀ f : σ → Parser α,
      (∀ state scanner value next, f state scanner = (some value, next) →
        motive state scanner value next) →
      ∀ state scanner value next, body f state scanner = (some value, next) →
        motive state scanner value next)
    {state : σ} {scanner next : Scanner} {value : α}
    (h : fix body state scanner = (some value, next)) : motive state scanner value next := by
  have hunroll : ∀ depth state scanner value next,
      unroll body depth state scanner = (some value, next) →
        motive state scanner value next := by
    intro depth
    induction depth with
    | zero => intro state scanner value next h; cases h
    | succ depth ih => exact hbody _ ih
  exact hunroll _ _ _ _ _ h

end Parser

end HostScript
