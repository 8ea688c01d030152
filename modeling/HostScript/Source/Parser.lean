import HostScript.Source.Scanner

/-!
# Parsers

A parser works on a scanner and may fail; a failed parser leaves the scanner where it gave up.
There is no backtracking: `commit` decides between two ways to go on by whether a first parser
succeeds, and never comes back. Recursive parsers are fixed points: since each nested call starts
further right than the call it is nested in, unrolling once per remaining character is enough.
-/

namespace HostScript

/-- A parser of texts that stand for an `α`. -/
def Parser (α : Type) : Type :=
  Scanner → Option α × Scanner

namespace Parser

variable {α β σ : Type}

/-- Succeeds without reading. -/
def succeed (value : α) : Parser α := fun scanner =>
  (some value, scanner)

/-- Fails without reading. -/
def fail : Parser α := fun scanner =>
  (none, scanner)

/-- Goes on one way after a success and another way after a failure. -/
def commit (parser : Parser α) (yes : α → Parser β) (no : Parser β) : Parser β := fun scanner =>
  match parser scanner with
  | (some value, next) => yes value next
  | (none, next) => no next

/-- Runs one parser after another. -/
def andThen (parser : Parser α) (next : α → Parser β) : Parser β :=
  commit parser next fail

instance : Monad Parser where
  pure := succeed
  bind := andThen

/-- The scanner as it is. -/
def here : Parser Scanner := fun scanner =>
  (some scanner, scanner)

/-- Moves the cursor back to where it stood. -/
def rewind (earlier : Scanner) : Parser Unit := fun scanner =>
  (some (), scanner.rewind earlier)

/-- Skips separators. -/
def skipBlanks : Parser Unit := fun scanner =>
  (some (), scanner.skipBlanks)

/-- A recursive parser unrolled `depth` times; a deeper call fails. -/
def unroll (body : (σ → Parser α) → σ → Parser α) : (depth : Nat) → σ → Scanner → Option α × Scanner
  | 0, _, scanner => fail scanner
  | depth + 1, state, scanner => body (unroll body depth) state scanner

/-- The recursive parser with the given body, whose nested calls must start further right. -/
def fix (body : (σ → Parser α) → σ → Parser α) (state : σ) : Parser α := fun scanner =>
  unroll body (scanner.rest.length + 1) state scanner

end Parser

end HostScript
