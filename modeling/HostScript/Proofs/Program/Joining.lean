import HostScript.Proofs.Machine.Covering
import HostScript.Proofs.Source.Compiling
import HostScript.Proofs.Source.Portable

/-!
# Joining programs

Texts with blanks between them compile to the statements of the one followed by those of the other,
since a blank continues neither a name nor a word and no statement starts with what continues an
expression. To run the joined program is to run the one and then, unless it failed, the other on
the machine that is left (`compile_join_and_run`).
-/

namespace HostScript

open Grammar

/-! ## Texts -/

/-- A text, some blanks and another text derive the statements of both. -/
theorem Grammar.Derives.join {text blanks other : List Char} {first second : Program}
    (h : Derives text first) (hother : Derives other second) (hne : blanks ≠ [])
    (hblanks : ∀ char ∈ blanks, char ∈ [' ', '\t', '\n', '\r']) :
    Derives (text ++ (blanks ++ other)) ⟨first.statements ++ second.statements⟩ := by
  have hstops : Text.Stops isNamePart (blanks ++ other) := by
    obtain ⟨char, more, rfl⟩ := List.exists_cons_of_ne_nil hne
    have hall : ∀ char ∈ [' ', '\t', '\n', '\r'], isNamePart char = false := by decide
    exact Text.stops_cons.2 (hall char (hblanks char List.mem_cons_self))
  obtain ⟨taken, htaken, hport⟩ := Block.portable h
  rw [List.append_nil] at htaken
  subst htaken
  have hfirst : Block (text ++ (blanks ++ other)) (blanks ++ other) first.statements :=
    hport _ (fits_of_stops hstops)
  exact hfirst.append (Block.of_blanks hother ⟨blanks, hblanks, rfl⟩)

/-! ## Runs -/

namespace Machine

variable {σ : Type} (table : HostTable σ)

/-- A joined program runs its first part, and goes on from the machine that is left unless that
part failed. -/
theorem run_append (first second : List Statement) (machine : Machine σ) :
    run table ⟨first ++ second⟩ machine =
      match run table ⟨first⟩ machine with
      | (.ok (), after) => run table ⟨second⟩ after
      | (.error error, after) => (.error error, after) := by
  unfold run
  rw [executeAll_append, run_bind]
  dsimp only
  rcases (executeAll table first).run machine with ⟨_ | _, _⟩
  · rfl
  · rfl

end Machine

/-- Two texts that compile, with blanks between them, compile to the statements of the one followed
by those of the other, and the joined program runs as the one and then, only if that succeeded, the
other on the same machine. -/
theorem compile_join_and_run {source other blanks : String} {first second : Program}
    (hne : blanks ≠ "") (hblanks : ∀ char ∈ blanks.toList, char ∈ [' ', '\t', '\n', '\r'])
    (hfirst : compile source = .ok first) (hsecond : compile other = .ok second) :
    compile (source ++ blanks ++ other) = .ok ⟨first.statements ++ second.statements⟩ ∧
      ∀ {σ : Type} (table : HostTable σ) (machine : Machine σ),
        Machine.run table ⟨first.statements ++ second.statements⟩ machine =
          match Machine.run table first machine with
          | (.ok (), after) => Machine.run table second after
          | (.error error, after) => (.error error, after) := by
  refine ⟨compile_of_derives ?_, fun table machine => ?_⟩
  · rw [String.toList_append, String.toList_append, List.append_assoc]
    refine (derives_of_compile hfirst).join (derives_of_compile hsecond) (fun hnil => hne ?_)
      hblanks
    exact String.toList_inj.1 hnil
  · exact Machine.run_append table first.statements second.statements machine

/-- A name that starts with the word of an operator does not continue the expression before it, and
the first statement of the joined program decides whether the second one runs. -/
theorem compile_join_and_run_orders :
    compile "a = b" = .ok ⟨[.assign "a" (.var "b")]⟩ ∧
      compile "orders = a" = .ok ⟨[.assign "orders" (.var "a")]⟩ ∧
      compile ("a = b" ++ "\r\n" ++ "orders = a") =
        .ok ⟨[.assign "a" (.var "b"), .assign "orders" (.var "a")]⟩ ∧
      ∀ {σ : Type} (table : HostTable σ) (machine : Machine σ),
        Machine.run table ⟨[.assign "a" (.var "b"), .assign "orders" (.var "a")]⟩ machine =
          match Machine.run table ⟨[.assign "a" (.var "b")]⟩ machine with
          | (.ok (), after) => Machine.run table ⟨[.assign "orders" (.var "a")]⟩ after
          | (.error error, after) => (.error error, after) := by
  have hfirst : compile "a = b" = .ok ⟨[.assign "a" (.var "b")]⟩ := by rfl
  have hsecond : compile "orders = a" = .ok ⟨[.assign "orders" (.var "a")]⟩ := by rfl
  exact ⟨hfirst, hsecond, compile_join_and_run (by decide) (by decide) hfirst hsecond⟩

end HostScript
