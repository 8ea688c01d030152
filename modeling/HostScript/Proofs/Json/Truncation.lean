import HostScript.Proofs.Json.Tokens

/-!
# Reading texts that are cut off

Text is read from left to right. So where a reader takes a value from a whole text, it reports the
end of the text if the text is cut off before the value ends, and no other error (`Streams`). The
readers of brackets, commas, keys, words and strings stream every text that they read (`Streaming`),
and the items of a list are streamed if each of them is (`items_streams`).
-/

namespace HostScript.Json.Reader

variable {α β : Type} {reader : Reader α} {text mid rest : List Char} {value : α}

/-- On every front part of the text the reader reports the end of the text, unless it takes the
value there and stops before what is left of `rest`. -/
def Streams (reader : Reader α) (text rest : List Char) (value : α) : Prop :=
  ∀ front back, text = front ++ back →
    reader front = .error .endOfText ∨
      ∃ left, rest = left ++ back ∧ reader front = .ok (value, left)

namespace Streams

/-- What is returned is read from nothing. -/
theorem pure (value : α) (text : List Char) : Streams (pure value) text text value :=
  fun front _ htext => .inr ⟨front, htext, rfl⟩

/-- A sequence streams what its parts stream one after the other. -/
theorem bind {f : α → Reader β} {result : β} (hfirst : Streams reader text mid value)
    (h : Streams (f value) mid rest result) : Streams (reader >>= f) text rest result := by
  intro front back htext
  obtain hend | ⟨left, hmid, htaken⟩ := hfirst front back htext
  · exact .inl (bind_error hend)
  · rw [bind_ok htaken]
    exact h left back hmid

/-- What is returned in the end does not change what is streamed. -/
theorem map {f : α → β} (h : Streams reader text rest value) :
    Streams (f <$> reader) text rest (f value) :=
  bind (f := fun value => Pure.pure (f value)) h (.pure (f value) rest)

/-- A level of the budget is spent first. -/
theorem nested {body : Nat → Reader α} {depth : Nat} (hdepth : 0 < depth)
    (h : Streams (body (depth - 1)) text rest value) :
    Streams (Reader.nested depth body) text rest value := by
  obtain ⟨less, rfl⟩ := Nat.exists_eq_add_of_lt hdepth
  rw [Nat.zero_add] at h ⊢
  exact h

/-- A reader that needs some characters first reports the end of the text inside them, and goes on
as another reader after them. -/
theorem prepend {other : Reader α} (taken : List Char)
    (hshort : ∀ front more, taken = front ++ more → more ≠ [] → reader front = .error .endOfText)
    (hlong : ∀ front, reader (taken ++ front) = other front) (h : Streams other text rest value) :
    Streams reader (taken ++ text) rest value := by
  intro front back htext
  obtain ⟨front, rfl, htail⟩ | ⟨more, htaken, rfl⟩ := List.append_eq_append_iff.1 htext
  · rw [hlong]
    exact h front back htail
  · by_cases hmore : more = []
    · -- The cut is right after the characters.
      subst hmore
      obtain rfl : taken = front := by rw [htaken, List.append_nil]
      have hcut := h [] text rfl
      rwa [← hlong, List.append_nil] at hcut
    · exact .inl (hshort front more htaken hmore)

/-- A reader that needs one character first. -/
theorem cons {other : Reader α} {char : Char} (hnil : reader [] = .error .endOfText)
    (hcons : ∀ front, reader (char :: front) = other front) (h : Streams other text rest value) :
    Streams reader (char :: text) rest value := by
  refine prepend [char] (fun front more htaken hmore => ?_) hcons h
  obtain ⟨rfl, -⟩ | ⟨-, rfl⟩ := List.append_eq_singleton_iff.1 htaken.symm
  · exact hnil
  · exact absurd rfl hmore

/-- A reader that skips blanks first. -/
theorem blanks {body : Reader α}
    (hreader : ∀ text, reader text = body (text.dropWhile Text.isSeparator))
    (hnil : body [] = .error .endOfText)
    (h : Streams body (text.dropWhile Text.isSeparator) rest value) :
    Streams reader text rest value := by
  rintro front back rfl
  rw [hreader]
  by_cases hblank : front.dropWhile Text.isSeparator = []
  · exact .inl (by rw [hblank, hnil])
  · refine h _ back ?_
    rw [List.dropWhile_append, if_neg (by simpa using hblank)]

end Streams

/-- The reader streams every text from which it takes a value. -/
def Streaming (reader : Reader α) : Prop :=
  ∀ ⦃text rest value⦄, reader text = .ok (value, rest) → Streams reader text rest value

namespace Streaming

/-- A reader that takes nothing streams. -/
theorem pure (value : α) : Streaming (pure value) := by
  intro text rest found h
  cases h
  exact .pure value text

/-- A reader that always fails streams. -/
theorem throw (error : ReadError) : Streaming (throw error : Reader α) :=
  fun _ _ _ h => nomatch h

/-- Readers that stream still do so one after the other. -/
theorem bind {f : α → Reader β} (h : Streaming reader) (hf : ∀ value, Streaming (f value)) :
    Streaming (reader >>= f) := by
  intro text rest result hwhole
  obtain ⟨value, mid, hfirst, hsecond⟩ := bind_success hwhole
  exact (h hfirst).bind (hf value hsecond)

/-- A change of the result leaves a reader streaming. -/
theorem map {f : α → β} (h : Streaming reader) : Streaming (f <$> reader) :=
  bind (f := fun value => Pure.pure (f value)) h fun value => pure (f value)

end Streaming

/-! ## Words and strings -/

/-- A fixed word streams. -/
theorem word_streaming (wanted : List Char) : Streaming (word wanted) := by
  induction wanted with
  | nil =>
      intro text rest value h
      cases h
      exact .pure () text
  | cons wanted others ih =>
      intro text rest value h
      cases text with
      | nil => cases h
      | cons char text =>
          rw [word] at h
          split at h
          · next hchar =>
              refine .cons rfl (fun front => ?_) (ih h)
              rw [word, if_pos hchar]
          · cases h

/-- A hexadecimal digit takes one byte. -/
theorem utf8Size_of_hexDigit? {char : Char} {digit : Nat} (h : hexDigit? char = some digit) :
    char.utf8Size = 1 := by
  rw [Char.utf8Size_eq_one_iff, UInt32.le_iff_toNat_le]
  unfold hexDigit? at h
  split at h
  · next hdigit =>
      simp only [Char.isDigit, Bool.and_eq_true, decide_eq_true_eq] at hdigit
      exact Nat.le_trans (UInt32.le_iff_toNat_le.1 hdigit.2) (by decide)
  split at h
  · next hlower => exact Nat.le_trans (UInt32.le_iff_toNat_le.1 hlower.2) (by decide)
  split at h
  · next hupper => exact Nat.le_trans (UInt32.le_iff_toNat_le.1 hupper.2) (by decide)
  · cases h

/-- A text of characters of one byte has as many bytes as characters. -/
theorem utf8ByteSize_ofList_eq_length {text : List Char} (h : ∀ char ∈ text, char.utf8Size = 1) :
    (String.ofList text).utf8ByteSize = text.length := by
  induction text with
  | nil => rfl
  | cons char text ih =>
      rw [List.forall_mem_cons] at h
      rw [String.ofList_cons, String.utf8ByteSize_append, String.utf8ByteSize_singleton, h.1,
        ih h.2, List.length_cons, Nat.add_comm]

/-- Where some of four hexadecimal digits are missing, the text has ended. -/
theorem hexError_of_append {a b c d : Char} {code : Nat} (h : hexQuad? a b c d = some code)
    {front more : List Char} (hfront : [a, b, c, d] = front ++ more) (hmore : more ≠ []) :
    front.length < 4 ∧ hexError front = .endOfText := by
  simp only [hexQuad?, Option.bind_eq_bind, Option.bind_eq_some_iff] at h
  obtain ⟨_, ha, _, hb, _, hc, _, hd, -⟩ := h
  have hsizes : ∀ char ∈ [a, b, c, d], char.utf8Size = 1 := by
    simp [utf8Size_of_hexDigit? ha, utf8Size_of_hexDigit? hb, utf8Size_of_hexDigit? hc,
      utf8Size_of_hexDigit? hd]
  have hshort : front.length < 4 := by
    have hlength := congrArg List.length hfront
    have := List.length_pos_iff.2 hmore
    simp only [List.length_cons, List.length_nil, List.length_append] at hlength
    omega
  refine ⟨hshort, ?_⟩
  rw [hfront] at hsizes
  rw [hexError, utf8ByteSize_ofList_eq_length fun char hchar =>
    hsizes char (List.mem_append_left more hchar), if_pos hshort]

/-- An escape of a code that is cut off ends the text. -/
theorem stringBody_of_append {a b c d : Char} {code : Nat} (h : hexQuad? a b c d = some code)
    {front more : List Char} (hfront : ['\\', 'u', a, b, c, d] = front ++ more)
    (hmore : more ≠ []) : stringBody front = .error .endOfText := by
  match front, hfront with
  | [], _ => rfl
  | [_], hfront =>
      cases hfront
      rfl
  | _ :: _ :: few, hfront =>
      simp only [List.cons_append, List.cons.injEq] at hfront
      obtain ⟨rfl, rfl, hfront⟩ := hfront
      obtain ⟨hshort, hend⟩ := hexError_of_append h hfront hmore
      have hfew : stringBody ('\\' :: 'u' :: few) = .error (hexError few) := by
        match few, hshort with
        | [], _ | [_], _ | [_, _], _ | [_, _, _], _ => rfl
      rw [hfew, hend]

/-- After an escape of a leading surrogate, an escape of a code that is cut off ends the text. -/
theorem stringBody_of_surrogate {a b c d e f g h : Char} {leading trailing : Nat}
    (hleading : hexQuad? a b c d = some leading) (hlow : 0xD800 ≤ leading)
    (hhigh : leading < 0xDC00) (htrailing : hexQuad? e f g h = some trailing)
    {front more : List Char} (hfront : ['\\', 'u', e, f, g, h] = front ++ more)
    (hmore : more ≠ []) :
    stringBody ('\\' :: 'u' :: a :: b :: c :: d :: front) = .error .endOfText := by
  rw [stringBody, hleading]
  dsimp only
  rw [if_neg (by omega), if_neg (by omega)]
  cases front with
  | nil => rfl
  | cons slash front =>
      cases front with
      | nil =>
          cases hfront
          rfl
      | cons letter few =>
          simp only [List.cons_append, List.cons.injEq] at hfront
          obtain ⟨rfl, rfl, hfront⟩ := hfront
          obtain ⟨hshort, hend⟩ := hexError_of_append htrailing hfront hmore
          rcases few with _ | ⟨_, _ | ⟨_, _ | ⟨_, _ | ⟨_, few⟩⟩⟩⟩
          · exact congrArg Except.error hend
          · exact congrArg Except.error hend
          · exact congrArg Except.error hend
          · exact congrArg Except.error hend
          · simp only [List.length_cons] at hshort
            omega

/-- The characters of a string stream, up to the closing quote. -/
theorem stringBody_streaming : Streaming (stringBody : Reader (List Char)) := by
  intro text rest chars h
  replace h := stringBody_sound h
  induction h with
  | close rest => exact .cons rfl (fun _ => rfl) (.pure [] rest)
  | plain char text rest chars hquote hslash hcontrol _ ih =>
      exact .cons rfl (fun front => stringBody_plain front hquote hslash (Nat.not_lt.2 hcontrol))
        ih.map
  | letter letter char text rest chars hletter _ ih =>
      exact .cons rfl (fun _ => rfl)
        (.cons rfl (fun front => stringBody_letter front hletter) ih.map)
  | code a b c d code text rest chars hcode hplain _ ih =>
      exact .prepend ['\\', 'u', a, b, c, d]
        (fun front more hfront hmore => stringBody_of_append hcode hfront hmore)
        (fun front => stringBody_code front hcode hplain) ih.map
  | pair a b c d e f g h leading trailing text rest chars hleading hlow hhigh htrailing hlow' hhigh'
      _ ih =>
      refine .prepend ['\\', 'u', a, b, c, d]
        (fun front more hfront hmore => stringBody_of_append hleading hfront hmore)
        (fun _ => rfl) ?_
      exact .prepend ['\\', 'u', e, f, g, h] (fun front more hfront hmore =>
          stringBody_of_surrogate hleading hlow hhigh htrailing hfront hmore)
        (fun front => stringBody_pair front hleading hlow hhigh htrailing ⟨hlow', hhigh'⟩) ih.map

/-- What follows the opening quote of a string streams. -/
theorem stringRest_streaming : Streaming stringRest :=
  stringBody_streaming.map

/-! ## Heads -/

/-- A fixed word for a scalar is streamed. -/
theorem wordHead_streaming (wanted : List Char) (scalar : Head) :
    Streaming (word wanted *> pure scalar : Reader Head) :=
  Streaming.bind (f := fun _ => pure scalar) (word_streaming wanted) fun _ => .pure scalar

/-- A head other than a number is streamed. -/
theorem headAfterBlanks_streams {found : Head} (h : headAfterBlanks text = .ok (found, rest))
    (hfound : ∀ number, found ≠ .number number) : Streams headAfterBlanks text rest found := by
  cases text with
  | nil => cases h
  | cons char text =>
      unfold headAfterBlanks at h
      dsimp only at h
      split at h
      · next hchar =>
          subst hchar
          exact .cons rfl (fun _ => rfl) (wordHead_streaming _ _ h)
      split at h
      · next hchar =>
          subst hchar
          exact .cons rfl (fun _ => rfl) (wordHead_streaming _ _ h)
      split at h
      · next hchar =>
          subst hchar
          exact .cons rfl (fun _ => rfl) (wordHead_streaming _ _ h)
      split at h
      · next hchar =>
          subst hchar
          exact .cons rfl (fun _ => rfl) (stringRest_streaming.map h)
      split at h
      · obtain ⟨number, -, rfl⟩ := map_success h
        exact absurd rfl (hfound number)
      split at h
      · obtain ⟨number, -, rfl⟩ := map_success h
        exact absurd rfl (hfound number)
      split at h
      · next hchar =>
          subst hchar
          cases h
          exact .cons rfl (fun _ => rfl) (.pure Head.array _)
      split at h
      · next hchar =>
          subst hchar
          cases h
          exact .cons rfl (fun _ => rfl) (.pure Head.object _)
      · cases h

/-- A reader that wants another head than a number streams if what it does with a head does. -/
theorem head_bind_streaming {f : Head → Reader α} (hf : ∀ found, Streaming (f found))
    (hnumber : ∀ number, ∃ error, f (.number number) = throw error) :
    Streaming (head >>= f) := by
  intro text rest value h
  obtain ⟨found, mid, hhead, hrest⟩ := bind_success h
  have hfound : ∀ number, found ≠ .number number := by
    rintro number rfl
    obtain ⟨error, herror⟩ := hnumber number
    rw [herror] at hrest
    cases hrest
  have hstreams : Streams head text mid found :=
    .blanks (fun _ => rfl) rfl (headAfterBlanks_streams hhead hfound)
  exact hstreams.bind (hf found hrest)

/-- A string streams. -/
theorem string_streaming : Streaming string := by
  refine head_bind_streaming (fun found => ?_) fun _ => ⟨_, rfl⟩
  cases found with
  | string value => exact .pure value
  | _ => exact .throw _

/-- The two words for truth values stream. -/
theorem boolean_streaming : Streaming boolean := by
  refine head_bind_streaming (fun found => ?_) fun _ => ⟨_, rfl⟩
  cases found with
  | boolean value => exact .pure value
  | _ => exact .throw _

/-- The opening bracket of an array streams. -/
theorem openArray_streaming (wanted : Wanted) : Streaming (openArray wanted) := by
  refine head_bind_streaming (fun found => ?_) fun _ => ⟨_, rfl⟩
  cases found with
  | array => exact .pure ()
  | _ => exact .throw _

/-- The opening bracket of an object streams. -/
theorem openObject_streaming (wanted : Wanted) : Streaming (openObject wanted) := by
  refine head_bind_streaming (fun found => ?_) fun _ => ⟨_, rfl⟩
  cases found with
  | object => exact .pure ()
  | _ => exact .throw _

/-! ## Brackets and commas -/

/-- Reads the closing bracket where no blanks stand before it. -/
def closeAfterBlanks (bracket : Char) : Reader Unit
  | [] => .error .endOfText
  | char :: rest => if char = bracket then .ok ((), rest) else .error .malformed

/-- A closing bracket is looked for after blanks. -/
theorem close_eq_closeAfterBlanks (bracket : Char) (text : List Char) :
    close bracket text = closeAfterBlanks bracket (text.dropWhile Text.isSeparator) := by
  have hskip : skipBlanks text = .ok ((), text.dropWhile Text.isSeparator) := rfl
  unfold close
  rw [bind_ok hskip]
  cases text.dropWhile Text.isSeparator with
  | nil => rfl
  | cons char rest =>
      show (if char = bracket then set rest else throw .malformed : Reader Unit) _ = _
      rw [closeAfterBlanks]
      split <;> rfl

/-- A closing bracket streams. -/
theorem close_streaming (bracket : Char) : Streaming (close bracket) := by
  intro text rest value h
  rw [close_eq_closeAfterBlanks] at h
  refine .blanks (close_eq_closeAfterBlanks bracket) rfl ?_
  generalize text.dropWhile Text.isSeparator = mid at h
  cases mid with
  | nil => cases h
  | cons char mid =>
      rw [closeAfterBlanks] at h
      split at h
      · next hchar =>
          cases h
          exact .cons rfl (fun _ => if_pos hchar) (.pure () _)
      · cases h

/-- Where the blanks of a text do not reach the cut, they end at the same place without it. -/
theorem dropWhile_front {p : Char → Bool} {front others : List Char} {char : Char}
    (h : front.dropWhile p = char :: others) (back : List Char) :
    (front ++ back).dropWhile p = char :: (others ++ back) := by
  rw [List.dropWhile_append, h]
  rfl

/-- A comma and what follows it are read before the cut, or the text has ended. -/
theorem separatorAfterBlanks_front {first : Bool} {close char : Char} {front back : List Char}
    (h : separatorAfterBlanks first close (char :: (front ++ back)) = .ok ((), rest)) :
    separatorAfterBlanks first close (char :: front) = .error .endOfText ∨
      ∃ next left, rest = next :: (left ++ back) ∧
        separatorAfterBlanks first close (char :: front) = .ok ((), next :: left) := by
  unfold separatorAfterBlanks at h ⊢
  dsimp only at h ⊢
  by_cases hfirst : first = true
  · rw [if_pos hfirst] at h ⊢
    cases h
    exact .inr ⟨char, front, rfl, rfl⟩
  rw [if_neg hfirst] at h ⊢
  by_cases hcomma : char = ','
  · rw [if_pos hcomma] at h ⊢
    cases hfront : front.dropWhile Text.isSeparator with
    | nil => exact .inl rfl
    | cons next others =>
        rw [dropWhile_front hfront] at h
        dsimp only at h ⊢
        split at h
        · cases h
        · next hnext =>
            cases h
            rw [if_neg hnext]
            exact .inr ⟨next, others, rfl, rfl⟩
  · rw [if_neg hcomma] at h
    cases h

/-- What tells whether another item follows stands before the cut, or the text has ended. -/
theorem hasNext_front {first found : Bool} {close : Char} {front back : List Char}
    (h : hasNext first close (front ++ back) = .ok (found, rest)) :
    hasNext first close front = .error .endOfText ∨
      ∃ char left, rest = char :: (left ++ back) ∧
        hasNext first close front = .ok (found, char :: left) := by
  unfold hasNext at h ⊢
  cases hfront : front.dropWhile Text.isSeparator with
  | nil => exact .inl rfl
  | cons char others =>
      rw [dropWhile_front hfront] at h
      dsimp only at h ⊢
      split at h
      · next hclose =>
          cases h
          rw [if_pos hclose]
          exact .inr ⟨char, others, rfl, rfl⟩
      · next hclose =>
          rw [if_neg hclose]
          obtain ⟨_, mid, hseparator, hpure⟩ := bind_success (f := fun _ => pure true) h
          cases hpure
          obtain hend | ⟨next, left, hmid, htaken⟩ := separatorAfterBlanks_front hseparator
          · exact .inl (bind_error hend)
          · exact .inr ⟨next, left, hmid, bind_ok htaken⟩

/-- The question whether a list goes on streams. -/
theorem hasItem_streaming (first : Bool) : Streaming (hasItem first) := by
  rintro text rest found h front back rfl
  obtain hend | ⟨char, left, hrest, htaken⟩ := hasNext_front h
  · exact .inl hend
  · exact .inr ⟨char :: left, hrest, htaken⟩

/-- The question whether an object goes on streams. -/
theorem hasKey_streaming (first : Bool) : Streaming (hasKey first) := by
  rintro text rest found h front back rfl
  obtain ⟨another, mid, hnext, hkey⟩ := bind_success h
  obtain hend | ⟨char, left, hmid, htaken⟩ := hasNext_front hnext
  · exact .inl (bind_error hend)
  · refine .inr ⟨char :: left, ?_⟩
    unfold hasKey
    rw [bind_ok htaken]
    cases another with
    | false =>
        cases hkey
        exact ⟨hmid, rfl⟩
    | true =>
        -- The first character of the key stands before the cut.
        obtain ⟨_, _, hget, hquote⟩ := bind_success hkey
        cases hget
        split at hquote
        · cases hquote
          cases hmid
          exact ⟨rfl, rfl⟩
        · cases hquote

/-! ## Lists -/

section Lists

variable {item : Reader α} {first : Bool} {values : List α}

/-- Where no item follows, the list of items ends. A bound that is used up ends the text. -/
theorem itemsFrom_end_streams (hend : hasItem first text = .ok (false, rest)) (bound : Nat) :
    Streams (itemsFrom item bound first) text rest [] := by
  cases bound with
  | zero => exact fun _ _ _ => .inl rfl
  | succ bound => exact (hasItem_streaming first hend).bind (.pure [] rest)

/-- Where an item follows, it is streamed before the others. -/
theorem itemsFrom_next_streams {after : List Char} (hnext : hasItem first text = .ok (true, mid))
    (hitem : Streams item mid after value)
    (hothers : ∀ bound, Streams (itemsFrom item bound false) after rest values) (bound : Nat) :
    Streams (itemsFrom item bound first) text rest (value :: values) := by
  cases bound with
  | zero => exact fun _ _ _ => .inl rfl
  | succ bound =>
      refine (hasItem_streaming first hnext).bind (hitem.bind ((hothers bound).bind ?_))
      exact .pure (value :: values) rest

end Lists

section Items

variable {layout : Layout} {level : Nat} {item : Reader β} {toJson : α → Json} {result : α → β}
  {values : List α} (hlayout : layout.IsBlank)
  (h : ∀ value ∈ values, ∀ rest, NumberEnds rest →
    Streams item (write layout (level + 1) (toJson value) rest) rest (result value))

include hlayout h

/-- The items after the first one are streamed if each of them is. -/
theorem itemsFrom_streams (rest : List Char) (bound : Nat) :
    Streams (itemsFrom item bound false) (writeItems layout level (values.map toJson) rest)
      (']' :: rest) (values.map result) := by
  induction values generalizing bound with
  | nil => exact itemsFrom_end_streams (hasItem_writeItems_nil hlayout level rest) bound
  | cons value values ih =>
      rw [List.forall_mem_cons] at h
      have hsome := hasItem_writeItems hlayout level (toJson value) (values.map toJson) rest
      exact itemsFrom_next_streams hsome (h.1 _ (numberEnds_writeItems hlayout level _ rest))
        (ih h.2) bound

/-- The items of an array are streamed if each of them is, under any bound: a text that is cut off
has another length than the whole text. -/
theorem items_streams (htext : write layout level (.array (values.map toJson)) rest = '[' :: text) :
    Streams (items item) text rest (values.map result) := by
  suffices hitems : ∀ bound, Streams (itemsFrom item bound true) text (']' :: rest)
      (values.map result) by
    intro front back hfront
    have hstreams : Streams (do
        let values ← itemsFrom item (front.length + 1) true
        close ']'
        return values) text rest (values.map result) :=
      (hitems (front.length + 1)).bind
        ((close_streaming ']' (close_blanks noBlanks rfl)).bind (.pure _ rest))
    exact hstreams front back hfront
  cases values with
  | nil =>
      obtain rfl : ']' :: rest = text := (List.cons.inj htext).2
      exact itemsFrom_end_streams (hasNext_end noBlanks (by decide) true)
  | cons value values =>
      rw [List.forall_mem_cons] at h
      rw [List.map_cons, write] at htext
      obtain rfl := (List.cons.inj htext).2
      have hsome := hasItem_write hlayout level (toJson value)
        (writeItems layout level (values.map toJson) rest)
      exact itemsFrom_next_streams hsome (h.1 _ (numberEnds_writeItems hlayout level _ rest))
        (itemsFrom_streams hlayout h.2 rest)

end Items

end HostScript.Json.Reader
