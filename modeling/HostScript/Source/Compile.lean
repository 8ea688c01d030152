import HostScript.Source.Grammar

/-!
# Compiling program text

A text is a program as a whole or not at all. `parseProgram` reads a program from where a scanner
stands, and `compile` from the start of a text.
-/

namespace HostScript

/-- Reads a program from where a scanner stands up to the end of its text. The scanner that is left
can be read from again; its record of failures carries over. -/
def Scanner.parseProgram (scanner : Scanner) : Except ParseError Program × Scanner :=
  match Parser.program scanner with
  | (some program, next) => (.ok program, next)
  | (none, next) => (.error next.error, next)

/-- The program that a text stands for, or where the text stops being one. -/
def compile (source : String) : Except ParseError Program :=
  (Scanner.ofString source).parseProgram.1

end HostScript
