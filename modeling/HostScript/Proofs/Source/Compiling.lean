import HostScript.Proofs.Source.Completeness
import HostScript.Proofs.Source.Soundness
import HostScript.Source.Compile

/-!
# Compiling follows the grammar

The texts that compile are those that derive a program, and they compile to the program that they
derive. Start with `compile_eq_ok_iff_derives`.
-/

namespace HostScript

open Grammar

/-- A text compiles to what the parser of programs reads from its start. -/
theorem compile_eq_ok_iff {source : String} {program : Program} :
    compile source = .ok program ↔
      ∃ next, Parser.program (.ofString source) = (some program, next) := by
  unfold compile Scanner.parseProgram
  constructor
  · intro h
    split at h
    · next found next hfound =>
        cases h
        exact ⟨next, hfound⟩
    · cases h
  · rintro ⟨next, hnext⟩
    rw [hnext]

/-- A text that compiles derives its program. -/
theorem derives_of_compile {source : String} {program : Program}
    (h : compile source = .ok program) : Derives source.toList program := by
  obtain ⟨next, hnext⟩ := compile_eq_ok_iff.1 h
  exact Parser.program_sound hnext

/-- A text that derives a program compiles to it. -/
theorem compile_of_derives {source : String} {program : Program}
    (h : Derives source.toList program) : compile source = .ok program := by
  obtain ⟨next, -, hnext⟩ := Parser.program_takes h (.ofString source) rfl
  exact compile_eq_ok_iff.2 ⟨next, hnext⟩

/-- Compiling accepts exactly the texts of the grammar, and builds the program that the grammar
assigns to the text. -/
theorem compile_eq_ok_iff_derives (source : String) (program : Program) :
    compile source = .ok program ↔ Derives source.toList program :=
  ⟨derives_of_compile, compile_of_derives⟩

end HostScript
