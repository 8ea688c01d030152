import HostScript.Proofs.Source.Follow
import HostScript.Proofs.Source.Progress

/-!
# Phrases are parsed

Wherever a phrase stands before something that does not continue it, its parser takes it whole and
gives its tree. The proofs are recursive in the derivation. A level is folded while it is read, so
`operation_leads` says of an expression of a level that its parser arrives, at the end of the text
of the expression, in the loop of the level with the expression as what was folded so far.
-/

namespace HostScript.Parser

open Grammar

variable {α β : Type}

/-! ## The loop of a level -/

/-- Past blanks a success decides. -/
theorem Leads.afterBlanks_yes {p : Parser α} {yes : α → Parser β} {no : Parser β}
    {text start rest : List Char} {value : α} (hblanks : Blanks text start)
    (hstart : Text.Stops Text.isSeparator start) (h : Takes p start rest value) :
    Leads (afterBlanks p yes no) text (yes value) rest := by
  intro scanner hscanner
  obtain ⟨skipped, hskipped, heq⟩ := takes_skipBlanks hblanks hstart scanner hscanner
  cases heq
  obtain ⟨next, hnext, heq⟩ := h _ hskipped
  refine ⟨next, hnext, ?_⟩
  rw [afterBlanks_apply]
  unfold commit
  rw [heq]
  rfl

/-- Past blanks a refusal decides, and the blanks are given back. -/
theorem Leads.afterBlanks_no {p : Parser α} {yes : α → Parser β} {no : Parser β}
    {text start : List Char} (hblanks : Blanks text start)
    (hstart : Text.Stops Text.isSeparator start) (h : Refuses p start) :
    Leads (afterBlanks p yes no) text no text := by
  intro scanner hscanner
  obtain ⟨skipped, hskipped, heq⟩ := takes_skipBlanks hblanks hstart scanner hscanner
  cases heq
  obtain ⟨next, hnext, heq⟩ := h _ hskipped
  refine ⟨next.rewind scanner, hscanner, ?_⟩
  rw [afterBlanks_apply]
  unfold commit
  rw [heq]
  rfl

/-- A level takes at least one character and moves only forward. -/
theorem tier_agree {level count : Nat} :
    Agree 1 count (tier expression level) (tier expression level) :=
  term_agree.negation.levels _

/-- An operator is the one that its level takes, if no equals sign follows it. -/
theorem takes_levelOperator {operator : Operator} {text rest : List Char}
    (h : Spelled operator text rest) (hrest : Text.Stops (· == '=') rest) :
    Takes (operatorOf (levelOperators operator.level)) text rest operator := by
  have hhead := h.head
  -- Within a level an earlier operator starts differently or goes on with an equals sign.
  have hother : ∀ {other : Operator} {after}, other.symbol.toList.head? ≠ text.head? →
      ¬ Spelled other text after := fun hne hspelled => hne hspelled.head.symm
  have hlonger : ∀ {other : Operator} {after},
      other.symbol.toList = operator.symbol.toList ++ ['='] → ¬ Spelled other text after := by
    intro other after hsymbol hspelled
    have htext := hspelled.text_eq
    rw [h.text_eq, hsymbol, List.append_assoc] at htext
    rw [List.append_cancel_left htext] at hrest
    exact absurd (hrest '=' rfl) (by decide)
  cases operator with
  | or => exact takes_operatorOf [] [] (by simp) h
  | and => exact takes_operatorOf [] [] (by simp) h
  | equal => exact takes_operatorOf [] [.notEqual] (by simp) h
  | notEqual =>
      refine takes_operatorOf [.equal] [] ?_ h
      simp only [List.mem_singleton, forall_eq]
      exact fun _ => hother (by rw [hhead]; decide)
  | lessEqual => exact takes_operatorOf [] [.greaterEqual, .less, .greater] (by simp) h
  | greaterEqual =>
      refine takes_operatorOf [.lessEqual] [.less, .greater] ?_ h
      simp only [List.mem_singleton, forall_eq]
      exact fun _ => hother (by rw [hhead]; decide)
  | less =>
      refine takes_operatorOf [.lessEqual, .greaterEqual] [.greater] ?_ h
      simp only [List.mem_cons, List.not_mem_nil, or_false, forall_eq_or_imp, forall_eq]
      exact ⟨fun _ => hlonger rfl, fun _ => hother (by rw [hhead]; decide)⟩
  | greater =>
      refine takes_operatorOf [.lessEqual, .greaterEqual, .less] [] ?_ h
      simp only [List.mem_cons, List.not_mem_nil, or_false, forall_eq_or_imp, forall_eq]
      exact ⟨fun _ => hother (by rw [hhead]; decide), fun _ => hlonger rfl,
        fun _ => hother (by rw [hhead]; decide)⟩
  | add => exact takes_operatorOf [] [.subtract] (by simp) h
  | subtract =>
      refine takes_operatorOf [.add] [] ?_ h
      simp only [List.mem_singleton, forall_eq]
      exact fun _ => hother (by rw [hhead]; decide)
  | multiply => exact takes_operatorOf [] [.divide] (by simp) h
  | divide =>
      refine takes_operatorOf [.multiply] [] ?_ h
      simp only [List.mem_singleton, forall_eq]
      exact fun _ => hother (by rw [hhead]; decide)

/-- What a level goes on with after the expression that it has folded so far. -/
def resume (level : Nat) (expr : Expr) : Parser Expr :=
  if level < negationLevel then operands (levelOperators level) (tier expression (level + 1)) expr
  else succeed expr

/-- Where the text does not continue a level, its loop ends. -/
theorem resume_takes {level : Nat} {rest : List Char} (h : Closed level rest) (expr : Expr) :
    Takes (resume level expr) rest rest expr := by
  unfold resume
  split
  · rw [operands_eq _ (fun _ => tier_agree)]
    have hblanks : Blanks rest (rest.dropWhile Text.isSeparator) := Blanks.dropWhile rest
    refine .afterBlanks_no hblanks (Text.stops_dropWhile rest) (refuses_operatorOf ?_)
    intro operator hmem after
    refine h.2 operator ?_ _ after hblanks
    rw [level_of_mem_levelOperators hmem]
  · exact .refl

/-- The loop of a level takes an operator of the level and its right operand. -/
theorem resume_leads {operator : Operator} {before spelled after start rest : List Char}
    {left right : Expr} (hblanks : Blanks before spelled)
    (hspelled : Spelled operator spelled after)
    (hafter : Blanks after start) (hstart : Text.Stops Text.isSeparator start)
    (hequals : Text.Stops (· == '=') start)
    (hright : Takes (tier expression (operator.level + 1)) start rest right) :
    Leads (resume operator.level left) before (resume operator.level (.binary operator left right))
      rest := by
  have hlevel := operator.level_lt_negationLevel
  unfold resume
  rw [if_pos hlevel, if_pos hlevel, operands_eq _ (fun _ => tier_agree)]
  refine (Leads.afterBlanks_yes hblanks hspelled.stops.2
    (takes_levelOperator hspelled (hafter.stops (by decide) hequals))).trans ?_
  exact (Leads.bind (takes_skipBlanks hafter hstart)).trans (.bind hright)

/-- A level takes an expression that nothing continues. -/
theorem takes_tier {level : Nat} {text rest : List Char} {expr : Expr}
    (h : Leads (tier expression level) text (resume level expr) rest) (hrest : Closed level rest) :
    Takes (tier expression level) text rest expr :=
  h.trans (resume_takes hrest expr)

/-- The loosest level is that of expressions. -/
theorem takes_expression {text rest : List Char} {expr : Expr}
    (h : Leads (tier expression 0) text (resume 0 expr) rest) (hrest : Closed 0 rest) :
    Takes expression text rest expr := by
  rw [expression_eq]
  exact takes_tier h hrest

/-! ## Terms -/

/-- A character is refused where another one stands. -/
theorem refuses_char {char : Char} {text : List Char} (h : Text.Stops (· == char) text) :
    Refuses (Parser.char char) text := by
  refine (reads_char char).refuses fun rest _ htext => ?_
  rw [htext, Text.stops_cons] at h
  simp at h

/-- A word is taken where it stands. -/
theorem takes_word {word : String} {text rest : List Char} (h : Word word text rest)
    (hne : 0 < word.length) : Takes (Parser.word word) text rest () :=
  (reads_word hne).takes_unit h

/-- A word is refused where it does not stand. -/
theorem refuses_word {word : String} {text : List Char} (hne : 0 < word.length)
    (h : ∀ rest, ¬ Word word text rest) : Refuses (Parser.word word) text :=
  (reads_word hne).refuses fun rest _ => h rest

/-- A reserved word is refused where another one stands. -/
theorem refuses_otherWord {word found : String} {text rest : List Char}
    (h : Word found text rest) (hfound : found ∈ reservedWords) (hword : word ∈ reservedWords)
    (hne : found ≠ word) : Refuses (Parser.word word) text := by
  obtain ⟨first, others, hstart, -⟩ := isNameStart_of_mem_reserved hword
  refine refuses_word ?_ fun rest hother => hne (h.unique hother hfound hword)
  rw [← String.length_toList, hstart]
  exact Nat.succ_pos _

/-- No number stands where a name does. -/
theorem refuses_number_of_isNameStart {first : Char} {others : List Char}
    (h : isNameStart first = true) : Refuses number (first :: others) := by
  refine refuses_number (Text.stops_cons.2 ?_)
  have hall := continuesExpression_of_isNameStart h
  simp only [continuesExpression, List.contains_cons, Bool.or_eq_false_iff, beq_eq_false_iff_ne]
    at hall
  simp [hall]

/-- A term that starts with a name is a reference. -/
theorem term_leads_reference {name : String} {text start : List Char} (h : Name name text start) :
    Leads (term expression) text (reference expression name) start := by
  obtain ⟨first, others, htext, hfirst⟩ := h.head
  have hnumber : Refuses number text := htext ▸ refuses_number_of_isNameStart hfirst
  refine .trans (.commit_no hnumber) ?_
  refine .trans (.commit_no (refuses_word (by decide) fun _ => h.not_word (by decide))) ?_
  refine .trans (.commit_no (refuses_word (by decide) fun _ => h.not_word (by decide))) ?_
  exact .commit_yes (reads_identifier.takes h)

/-- A term that starts with a bracket or a quote is neither a literal without quotes nor a
reference. -/
theorem term_leads_bracket {bracket : Char} {inner : List Char} (h : bracket ∈ ['[', '"', '(']) :
    Leads (term expression) (bracket :: inner)
      (commit (char '[') (fun _ => do return .array (← elements expression ']')) <|
        commit string (fun value => succeed (.string value)) <|
        commit (char '(') (fun _ => parenthesized expression) fail) (bracket :: inner) := by
  have hall : ∀ bracket ∈ ['[', '"', '('],
      (bracket.isDigit || bracket ∈ ['.', '+', '-']) = false ∧ isNameStart bracket = false ∧
        bracket ≠ 't' ∧ bracket ≠ 'f' := by decide
  obtain ⟨hnumber, hname, htrue, hfalse⟩ := hall bracket h
  refine .trans (.commit_no (refuses_number (Text.stops_cons.2 hnumber))) ?_
  refine .trans (.commit_no (refuses_word (by decide) fun _ hword =>
    htrue (List.cons.inj hword.1).1)) ?_
  refine .trans (.commit_no (refuses_word (by decide) fun _ hword =>
    hfalse (List.cons.inj hword.1).1)) ?_
  refine .commit_no (reads_identifier.refuses fun rest name hstart => ?_)
  obtain ⟨first, others, htext, hfirst⟩ := Name.head hstart
  cases htext
  rw [hname] at hfirst
  cases hfirst

/-- Where no term is continued there is neither a point nor an opening bracket. -/
theorem stops_of_mem_continuation {rest : List Char}
    (h : Text.Stops (fun char => char.isDigit || ['.', '('].contains char) rest) :
    ∀ char ∈ ['.', '('], Text.Stops (· == char) rest := by
  intro char hmem other hother
  have hall := h other hother
  simp only [Bool.or_eq_false_iff, List.contains_eq_mem, decide_eq_false_iff_not] at hall
  exact beq_eq_false_iff_ne.2 fun heq => hall.2 (heq ▸ hmem)

/-- A chain is over where no point stands. -/
theorem chain_takes {rest : List Char} (h : Text.Stops (· == '.') rest) (base : Expr) :
    Takes (chain expression base) rest rest base := by
  rw [chain_eq]
  exact .commit_no (refuses_char h)

/-! ## Expressions -/

mutual

/-- The parser of a level arrives in its loop with the expression that stands there. -/
theorem operation_leads : ∀ {level : Nat} {text rest : List Char} {expr : Expr},
    Operation level text rest expr → Closed (level + 1) rest →
      Leads (tier expression level) text (resume level expr) rest
  | _, _, _, _, .tighter level text rest expr hlevel hnext, hrest => by
      have htakes := takes_tier (operation_leads hnext (hrest.mono (Nat.le_succ _))) hrest
      rw [tier_of_lt hlevel, binaryLevel_eq_operands, resume, if_pos hlevel]
      exact .bind htakes
  | _, _, _, _, .binary _ operator _ _ _ _ _ _ _ _ rfl hleft hbefore hspelled hafter hright,
      hrest => by
      -- The left operand arrives in the loop of this very level, which goes on with the operator.
      have hclosed := closed_of_spelled hbefore hspelled (Nat.lt_succ_self operator.level)
      refine (operation_leads hleft hclosed).trans ?_
      refine resume_leads hbefore hspelled hafter hright.stops ?_
        (takes_tier (operation_leads hright (hrest.mono (Nat.le_succ _))) hrest)
      obtain ⟨first, others, rfl, hfirst⟩ := hright.head
      exact Text.stops_cons.2 (by simpa using ne_of_startsExpression hfirst '=' (by decide))
  | _, _, _, _, .not text after start rest operand hword hblanks hoperand, hrest => by
      have htakes : Takes (negation (term expression)) start rest operand :=
        operation_leads hoperand hrest
      show Leads (negation (term expression)) text (succeed (.not operand)) rest
      rw [negation_eq (fun _ => term_agree)]
      refine .trans (.commit_yes (takes_word hword (by decide))) ?_
      exact (Leads.bind (takes_skipBlanks hblanks hoperand.stops)).trans (.bind htakes)
  | _, _, _, _, .term text rest expr hterm, hrest => by
      show Takes (negation (term expression)) text rest expr
      rw [negation_eq (fun _ => term_agree)]
      refine .trans (.commit_no (refuses_word (by decide) fun _ =>
        hterm.not_word (by decide) (by decide) (by decide))) ?_
      exact term_takes hterm hrest.1

/-- A term that no digit, point or bracket continues is taken. -/
theorem term_takes : ∀ {text rest : List Char} {expr : Expr}, Term text rest expr →
    Text.Stops (fun char => char.isDigit || ['.', '('].contains char) rest →
      Takes (term expression) text rest expr
  | _, _, _, .number literal rest value hliteral, hrest => by
      refine .commit_yes (takes_number hliteral fun char hchar => ?_)
      have := hrest char hchar
      simp only [List.contains_cons, Bool.or_eq_false_iff] at this ⊢
      exact ⟨this.1, this.2.1⟩
  | _, _, _, .trueWord text rest hword, _ => by
      have hnumber : Refuses number text := hword.1 ▸ refuses_number_of_isNameStart rfl
      refine .trans (.commit_no hnumber) ?_
      exact .commit_yes (takes_word hword (by decide))
  | _, _, _, .falseWord text rest hword, _ => by
      have hnumber : Refuses number text := hword.1 ▸ refuses_number_of_isNameStart rfl
      refine .trans (.commit_no hnumber) ?_
      refine .trans (.commit_no (refuses_otherWord hword (by decide) (by decide) (by decide))) ?_
      exact .commit_yes (takes_word hword (by decide))
  | _, _, _, .call text inner rest name args hname hargs, _ => by
      refine (term_leads_reference hname).trans ?_
      refine .trans (.commit_yes ((reads_char '(').takes_unit rfl)) ?_
      exact .bind (elements_takes hargs (by decide))
  | _, _, _, .chain text rest expr hchain, hrest => by
      have hstops := stops_of_mem_continuation hrest
      obtain ⟨name, start, hname, hstart, hleads⟩ := chain_leads hchain (hstops '(' (by decide))
      -- Directly after the name there is no bracket: it would make the name that of a call.
      have hcall : Text.Stops (· == '(') start := by
        rcases hstart with ⟨-, rfl⟩ | hpoint
        · exact hstops '(' (by decide)
        · exact fun char hchar => Option.some.inj (hpoint.symm.trans hchar) ▸ rfl
      refine (term_leads_reference hname).trans ?_
      refine .trans (.commit_no (refuses_char hcall)) ?_
      exact hleads.trans (chain_takes (hstops '.' (by decide)) expr)
  | _, _, _, .array inner rest elements hinner, _ => by
      refine (term_leads_bracket (by decide)).trans ?_
      refine .trans (.commit_yes ((reads_char '[').takes_unit rfl)) ?_
      exact .bind (elements_takes hinner (by decide))
  | _, _, _, .string value rest hquote, _ => by
      refine (term_leads_bracket (by decide)).trans ?_
      refine .trans (.commit_no (refuses_char (Text.stops_cons.2 rfl))) ?_
      exact .commit_yes (reads_string.takes ⟨hquote, rfl⟩)
  | _, _, _, .parenthesized inner start finish rest expr hinner hexpr hfinish, _ => by
      have hclosed : ∀ level, Closed level finish :=
        fun level => closed_of_ends hfinish (ends_cons (by decide))
      refine (term_leads_bracket (by decide)).trans ?_
      refine .trans (.commit_no (refuses_char (Text.stops_cons.2 rfl))) ?_
      refine .trans (.commit_no (reads_string.refuses fun _ _ hother =>
        absurd (List.cons.inj hother.2).1 (by decide))) ?_
      refine .trans (.commit_yes ((reads_char '(').takes_unit rfl)) ?_
      refine (Leads.bind (takes_skipBlanks hinner hexpr.stops)).trans ?_
      have hinside := takes_expression (operation_leads hexpr (hclosed 1)) (hclosed 0)
      refine (Leads.bind hinside).trans ?_
      refine (Leads.bind (takes_skipBlanks hfinish (Text.stops_cons.2 rfl))).trans ?_
      exact .bind ((reads_char ')').takes_unit rfl)

/-- A chain starts with a name, from which its parser arrives at the end of the chain. -/
theorem chain_leads : ∀ {text rest : List Char} {expr : Expr}, Chain text rest expr →
    Text.Stops (· == '(') rest → ∃ name start, Name name text start ∧
      (expr = .var name ∧ start = rest ∨ start.head? = some '.') ∧
      Leads (chain expression (.var name)) start (chain expression expr) rest
  | _, _, _, .var text rest name hname, hrest =>
      ⟨name, rest, hname, .inl ⟨rfl, rfl⟩, .refl⟩
  | _, _, _, .property text after rest base property hbase hproperty, hrest => by
      obtain ⟨name, start, hname, hstart, hleads⟩ := chain_leads hbase (Text.stops_cons.2 rfl)
      have hpoint : start.head? = some '.' :=
        hstart.elim (fun hvar => hvar.2 ▸ rfl) id
      refine ⟨name, start, hname, .inr hpoint, hleads.trans ?_⟩
      rw [chain_eq]
      refine .trans (.commit_yes ((reads_char '.').takes_unit rfl)) ?_
      refine (Leads.bind (reads_identifier.takes hproperty)).trans ?_
      exact .commit_no (refuses_char hrest)
  | _, _, _, .method text after inner rest base method args hbase hmethod hargs, _ => by
      obtain ⟨name, start, hname, hstart, hleads⟩ := chain_leads hbase (Text.stops_cons.2 rfl)
      have hpoint : start.head? = some '.' :=
        hstart.elim (fun hvar => hvar.2 ▸ rfl) id
      refine ⟨name, start, hname, .inr hpoint, hleads.trans ?_⟩
      rw [chain_eq]
      refine .trans (.commit_yes ((reads_char '.').takes_unit rfl)) ?_
      refine (Leads.bind (reads_identifier.takes hmethod)).trans ?_
      refine .trans (.commit_yes ((reads_char '(').takes_unit rfl)) ?_
      exact .bind (elements_takes hargs (by decide))

/-- Elements are taken with their closing bracket. -/
theorem elements_takes : ∀ {close : Char} {text rest : List Char} {exprs : List Expr},
    Elements close text rest exprs → close ∈ [')', ']'] →
      Takes (elements expression close) text rest exprs
  | _, _, _, _, .none close text rest hblanks, hclose => by
      have hstops : Text.Stops Text.isSeparator (close :: rest) :=
        (ends_cons (List.mem_cons_of_mem ',' hclose)).stops
      refine (Leads.bind (takes_skipBlanks hblanks hstops)).trans ?_
      exact .commit_yes ((reads_char close).takes_unit rfl)
  | _, _, _, _, .some close text start finish rest first others hblanks hfirst hothers,
      hclose => by
      have hnotClose : Text.Stops (· == close) start := by
        obtain ⟨char, more, rfl, hchar⟩ := hfirst.head
        have hmem : close ∈ [' ', '\t', '\n', '\r', '=', ')', ']', ','] :=
          List.mem_append_right [' ', '\t', '\n', '\r', '='] (List.mem_append_left [','] hclose)
        exact Text.stops_cons.2 (by simpa using ne_of_startsExpression hchar close hmem)
      refine (Leads.bind (takes_skipBlanks hblanks hfirst.stops)).trans ?_
      refine .trans (.commit_no (refuses_char hnotClose)) ?_
      refine (Leads.bind (takes_expression (operation_leads hfirst (hothers.closed hclose 1))
        (hothers.closed hclose 0))).trans ?_
      refine (Leads.bind (moreElements_takes hothers hclose)).trans ?_
      exact .bind ((reads_char close).takes_unit rfl)

/-- The elements after the first one are taken up to the closing bracket. -/
theorem moreElements_takes : ∀ {close : Char} {text rest : List Char} {exprs : List Expr},
    MoreElements close text rest exprs → close ∈ [')', ']'] →
      Takes (moreElements expression) text (close :: rest) exprs
  | _, _, _, _, .done close text rest hblanks, hclose => by
      have hstops : Text.Stops Text.isSeparator (close :: rest) :=
        (ends_cons (List.mem_cons_of_mem ',' hclose)).stops
      have hcomma : ∀ close ∈ [')', ']'], (close == ',') = false := by decide
      rw [moreElements_eq]
      refine (Leads.bind (takes_skipBlanks hblanks hstops)).trans ?_
      exact .commit_no (refuses_char (Text.stops_cons.2 (hcomma close hclose)))
  | _, _, _, _, .next close text after start finish rest element others hblanks hafter helement
      hothers, hclose => by
      rw [moreElements_eq]
      refine (Leads.bind (takes_skipBlanks hblanks (Text.stops_cons.2 rfl))).trans ?_
      refine .trans (.commit_yes ((reads_char ',').takes_unit rfl)) ?_
      refine (Leads.bind (takes_skipBlanks hafter helement.stops)).trans ?_
      refine (Leads.bind (takes_expression (operation_leads helement (hothers.closed hclose 1))
        (hothers.closed hclose 0))).trans ?_
      exact .bind (moreElements_takes hothers hclose)

end

/-! ## Statements -/

/-- At the end of a block no further statement is read. -/
theorem takes_atBlockEnd {terminators : List String} {rest : List Char}
    (h : BlockEnd terminators rest) : Takes (atBlockEnd terminators) rest rest true := by
  rintro scanner rfl
  refine ⟨scanner, rfl, ?_⟩
  have hend : (scanner.isAtEnd || terminators.any scanner.startsWithWord) = true := by
    rcases h with hnil | ⟨word, hmem, after, hword⟩
    · simp [Scanner.isAtEnd, hnil]
    · rw [Bool.or_eq_true, List.any_eq_true]
      exact .inr ⟨word, hmem, startsWithWord_iff.2 ⟨after, hword⟩⟩
  unfold atBlockEnd
  rw [hend]
  rfl

/-- Where a sentence stands a block does not end. -/
theorem takes_not_atBlockEnd {terminators : List String} {text rest : List Char}
    {statement : Statement} (h : Sentence text rest statement)
    (hwords : terminators ⊆ ["else", "end"]) :
    Takes (atBlockEnd terminators) text text false := by
  rintro scanner rfl
  refine ⟨scanner, rfl, ?_⟩
  have hall : ∀ word ∈ ["else", "end"], word ∈ reservedWords ∧ word ∉ ["if", "for"] := by decide
  have hnonempty : scanner.isAtEnd = false := by
    rcases h.start with ⟨_, _, hname⟩ | ⟨word, hmem, after, hword⟩
    · obtain ⟨first, others, htext, -⟩ := hname.head
      simp [Scanner.isAtEnd, htext]
    · have hlength : ∀ word ∈ ["if", "for"], word.toList ≠ [] := by decide
      simp [Scanner.isAtEnd, hword.1, hlength word hmem]
  have hword : terminators.any scanner.startsWithWord = false := by
    rw [List.any_eq_false]
    intro word hmem hstarts
    obtain ⟨hreserved, hother⟩ := hall word (hwords hmem)
    obtain ⟨after, hafter⟩ := startsWithWord_iff.1 hstarts
    exact h.not_word hreserved hother hafter
  unfold atBlockEnd
  rw [hnonempty, hword]
  rfl

/-- What follows the first block of a branch. -/
def otherwise (test : Expr) (consequent : List Statement) : Parser Statement :=
  commit (word "else")
    (fun _ => do
      skipBlanks
      commit (word "if")
        (fun _ => do
          let nested ← branch statement
          return .branch test consequent [nested])
        (do
          let alternative ← block statement ["end"]
          word "end"
          return .branch test consequent alternative))
    (do
      word "end"
      return .branch test consequent [])

/-- A statement that starts with a name goes on with what may follow that name. -/
theorem statement_leads_simple {name : String} {text start : List Char}
    (h : Name name text start) : Leads statement text (simpleStatement name) start := by
  rw [statement_eq]
  refine .trans (.commit_no (refuses_word (by decide) fun _ => h.not_word (by decide))) ?_
  refine .trans (.commit_no (refuses_word (by decide) fun _ => h.not_word (by decide))) ?_
  exact .bind (reads_identifier.takes h)

/-- No equals sign stands where a call or a chain goes on. -/
theorem refuses_assignSign {char : Char} {rest : List Char} (h : char ≠ '=') :
    Refuses assignSign (char :: rest) :=
  reads_assignSign.refuses fun _ _ hassign => h (List.cons.inj hassign.1).1

mutual

/-- A sentence is taken before whatever does not continue an expression. -/
theorem sentence_takes : ∀ {text rest : List Char} {statement : Statement},
    Sentence text rest statement → Closed 0 rest → Takes Parser.statement text rest statement
  | _, _, _, .assign text before after start rest name value hname hbefore hafter hvalue,
      hrest => by
      have hequals : Text.Stops (· == '=') after := by
        obtain ⟨first, others, rfl, hfirst⟩ := hvalue.head
        refine hafter.stops (by decide) (Text.stops_cons.2 ?_)
        exact beq_eq_false_iff_ne.2 (ne_of_startsExpression hfirst '=' (by decide))
      have hassign : Takes assignSign ('=' :: after) after () :=
        reads_assignSign.takes_unit ⟨rfl, fun hhead => absurd (hequals '=' hhead) (by decide)⟩
      refine (statement_leads_simple hname).trans ?_
      refine .trans (.afterBlanks_yes hbefore (Text.stops_cons.2 rfl) hassign) ?_
      refine (Leads.bind (takes_skipBlanks hafter hvalue.stops)).trans ?_
      exact .bind (takes_expression (operation_leads hvalue (hrest.mono (Nat.zero_le 1))) hrest)
  | _, _, _, .call text inner rest name args hname hargs, _ => by
      refine (statement_leads_simple hname).trans ?_
      refine .trans (.afterBlanks_no (.refl _) (Text.stops_cons.2 rfl)
        (refuses_assignSign (by decide))) ?_
      refine .trans (.commit_yes ((reads_char '(').takes_unit rfl)) ?_
      exact .bind (elements_takes hargs (by decide))
  | _, _, _, .method text rest base name args hchain, hrest => by
      have hstops := stops_of_mem_continuation hrest.1
      obtain ⟨root, start, hname, hstart, hleads⟩ := chain_leads hchain (hstops '(' (by decide))
      obtain ⟨after, rfl⟩ : ∃ after, start = '.' :: after := by
        rcases hstart with ⟨hvar, -⟩ | hpoint
        · cases hvar
        · exact List.head?_eq_some_iff.1 hpoint
      refine (statement_leads_simple hname).trans ?_
      refine .trans (.afterBlanks_no (.refl _) (Text.stops_cons.2 rfl)
        (refuses_assignSign (by decide))) ?_
      refine .trans (.commit_no (refuses_char (Text.stops_cons.2 rfl))) ?_
      exact .bind (hleads.trans (chain_takes (hstops '.' (by decide)) _))
  | _, _, _, .branch text rest statement hbranch, _ => by
      obtain ⟨after, hword, htakes⟩ := branch_takes hbranch
      rw [statement_eq]
      exact .trans (.commit_yes (takes_word hword (by decide))) htakes
  | _, _, _, .forEach text afterFor atEach afterEach atName afterName atIn afterIn atTerm afterTerm
      atDo afterDo atEnd rest binding iterable body hfor hatEach heach hatName hname hatIn hin
      hatTerm hterm hatDo hdo hbody hend, _ => by
      have hstops : ∀ {word text rest}, Word word text rest → word ∈ reservedWords →
          word ≠ "and" → word ≠ "or" → Text.Stops Text.isSeparator text :=
        fun hword hmem hand hor => (hword.ends hmem hand hor).stops
      have hclosed : Closed 0 afterTerm :=
        closed_of_ends hatDo (hdo.ends (by decide) (by decide) (by decide))
      obtain ⟨first, others, hhead, hfirst⟩ := hterm.head
      have hstart : Text.Stops Text.isSeparator atTerm :=
        hhead ▸ Text.stops_cons.2 (isSeparator_of_startsExpression hfirst)
      rw [statement_eq]
      refine .trans (.commit_no (refuses_otherWord hfor (by decide) (by decide) (by decide))) ?_
      refine .trans (.commit_yes (takes_word hfor (by decide))) ?_
      refine (Leads.bind (takes_skipBlanks hatEach
        (hstops heach (by decide) (by decide) (by decide)))).trans ?_
      refine (Leads.bind (takes_word heach (by decide))).trans ?_
      refine (Leads.bind (takes_skipBlanks hatName hname.ends.stops)).trans ?_
      refine (Leads.bind (reads_identifier.takes hname)).trans ?_
      refine (Leads.bind (takes_skipBlanks hatIn
        (hstops hin (by decide) (by decide) (by decide)))).trans ?_
      refine (Leads.bind (takes_word hin (by decide))).trans ?_
      refine (Leads.bind (takes_skipBlanks hatTerm hstart)).trans ?_
      refine (Leads.bind (term_takes hterm hclosed.1)).trans ?_
      refine (Leads.bind (takes_skipBlanks hatDo
        (hstops hdo (by decide) (by decide) (by decide)))).trans ?_
      refine (Leads.bind (takes_word hdo (by decide))).trans ?_
      refine (Leads.bind (block_takes hbody (by decide)
        (.inr ⟨"end", by decide, rest, hend⟩) rfl)).trans ?_
      exact .bind (takes_word hend (by decide))

/-- A branch is taken after its first word. -/
theorem branch_takes : ∀ {text rest : List Char} {statement : Statement},
    Branch text rest statement →
      ∃ after, Word "if" text after ∧ Takes (branch Parser.statement) after rest statement
  | _, _, _, .intro text afterIf atTest afterTest atThen afterThen atOther rest test consequent
      alternative hif hatTest htest hatThen hthen hconsequent hother => by
      have hends := hthen.ends (by decide) (by decide) (by decide)
      have hclosed : ∀ level, Closed level afterTest := fun level => closed_of_ends hatThen hends
      obtain ⟨hover, htakes⟩ := otherwise_takes hother test consequent
      refine ⟨afterIf, hif, ?_⟩
      rw [branch_eq]
      refine (Leads.bind (takes_skipBlanks hatTest htest.stops)).trans ?_
      have htested := takes_expression (operation_leads htest (hclosed 1)) (hclosed 0)
      refine (Leads.bind htested).trans ?_
      refine (Leads.bind (takes_skipBlanks hatThen hends.stops)).trans ?_
      refine (Leads.bind (takes_word hthen (by decide))).trans ?_
      exact (Leads.bind (block_takes hconsequent (by decide) hover rfl)).trans htakes

/-- What follows the first block of a branch ends that block and is taken. -/
theorem otherwise_takes : ∀ {text rest : List Char} {alternative : List Statement},
    Otherwise text rest alternative → ∀ (test : Expr) (consequent : List Statement),
      BlockEnd ["else", "end"] text ∧
        Takes (otherwise test consequent) text rest (.branch test consequent alternative)
  | _, _, _, .none text rest hend, test, consequent => by
      refine ⟨.inr ⟨"end", by decide, rest, hend⟩, ?_⟩
      refine .trans (.commit_no (refuses_otherWord hend (by decide) (by decide) (by decide))) ?_
      exact .bind (takes_word hend (by decide))
  | _, _, _, .nested text afterElse atIf rest statement helse hatIf hbranch, test, consequent => by
      refine ⟨.inr ⟨"else", by decide, afterElse, helse⟩, ?_⟩
      obtain ⟨after, hif, htakes⟩ := branch_takes hbranch
      have hstops := (hif.ends (by decide) (by decide) (by decide)).stops
      refine .trans (.commit_yes (takes_word helse (by decide))) ?_
      refine (Leads.bind (takes_skipBlanks hatIf hstops)).trans ?_
      refine .trans (.commit_yes (takes_word hif (by decide))) ?_
      exact .bind htakes
  | _, _, _, .block text afterElse atEnd rest statements helse hblock hbranch hend, test,
      consequent => by
      refine ⟨.inr ⟨"else", by decide, afterElse, helse⟩, ?_⟩
      -- The blanks are skipped to look for a nested branch, so the block is entered after them.
      have hblanks := Blanks.dropWhile afterElse
      have hstops := Text.stops_dropWhile (p := Text.isSeparator) afterElse
      have hidem : (afterElse.dropWhile Text.isSeparator).dropWhile Text.isSeparator =
          afterElse.dropWhile Text.isSeparator := Text.dropWhile_of_stops hstops
      refine .trans (.commit_yes (takes_word helse (by decide))) ?_
      refine (Leads.bind (takes_skipBlanks hblanks hstops)).trans ?_
      refine .trans (.commit_no (refuses_word (by decide) fun _ =>
        hblock.not_word hbranch hend hblanks hstops)) ?_
      refine (Leads.bind (block_takes hblock (by decide)
        (.inr ⟨"end", by decide, rest, hend⟩) hidem)).trans ?_
      exact .bind (takes_word hend (by decide))

/-- A block is taken up to its end, from wherever in the blanks before it. -/
theorem block_takes : ∀ {text rest : List Char} {statements : List Statement},
    Block text rest statements → ∀ {terminators : List String},
      terminators ⊆ ["else", "end"] → BlockEnd terminators rest → ∀ {start : List Char},
        start.dropWhile Text.isSeparator = text.dropWhile Text.isSeparator →
          Takes (block Parser.statement terminators) start rest statements
  | _, _, _, .nil text rest hblanks, terminators, hwords, hend, start, hstart => by
      have hstops := (hend.ends hwords).stops
      rw [block_eq]
      refine (Leads.bind (takes_skipBlanks (hblanks.of_dropWhile hstops hstart) hstops)).trans ?_
      exact .bind (takes_atBlockEnd hend)
  | _, _, _, .cons text atFirst finish rest first others hblanks hfirst hothers, terminators,
      hwords, hend, start, hstart => by
      have hstops := hfirst.ends.stops
      have hclosed := hothers.closed (hend.ends hwords) 0
      rw [block_eq]
      refine (Leads.bind (takes_skipBlanks (hblanks.of_dropWhile hstops hstart) hstops)).trans ?_
      refine (Leads.bind (takes_not_atBlockEnd hfirst hwords)).trans ?_
      refine (Leads.bind (sentence_takes hfirst hclosed)).trans ?_
      exact .bind (block_takes hothers hwords hend rfl)

end

/-- A text that derives a program is parsed as that program. -/
theorem program_takes {text : List Char} {result : Program} (h : Derives text result) :
    Takes program text [] result := by
  have hblock : Takes (block statement []) text [] result.statements :=
    block_takes h (List.nil_subset _) (.inl rfl) rfl
  have hend : Takes endOfText [] [] () := fun scanner hscanner =>
    ⟨scanner, hscanner, if_pos (List.isEmpty_iff.2 hscanner)⟩
  exact (Leads.bind hblock).trans (.bind hend)

end HostScript.Parser
