import HostScript.Binary64.Approximation
import HostScript.Binary64.Arithmetic
import HostScript.Binary64.Basic
import HostScript.Binary64.Decimal
import HostScript.Context
import HostScript.Dictionary
import HostScript.Host.Basic
import HostScript.Host.Stock
import HostScript.Json.Basic
import HostScript.Json.Error
import HostScript.Json.Printer
import HostScript.Json.Reader
import HostScript.Json.Scalar
import HostScript.Machine.Basic
import HostScript.Machine.Event
import HostScript.Machine.Run
import HostScript.Pattern.Basic
import HostScript.Pattern.Bracket
import HostScript.Pattern.CharSet
import HostScript.Pattern.Escape
import HostScript.Pattern.Parser
import HostScript.Pattern.Tables
import HostScript.Program.Basic
import HostScript.Program.Wire
import HostScript.Proofs.Binary64.Approximation
import HostScript.Proofs.Binary64.Nearest
import HostScript.Proofs.Binary64.Ordering
import HostScript.Proofs.Binary64.Range
import HostScript.Proofs.Binary64.Rounding
import HostScript.Proofs.Binary64.Shortest
import HostScript.Proofs.Dictionary
import HostScript.Proofs.Host.Registration
import HostScript.Proofs.Json.Accepting
import HostScript.Proofs.Json.Depth
import HostScript.Proofs.Json.Documents
import HostScript.Proofs.Json.Numbers
import HostScript.Proofs.Json.Reading
import HostScript.Proofs.Json.Tokens
import HostScript.Proofs.Json.TruncatedNumbers
import HostScript.Proofs.Json.Truncation
import HostScript.Proofs.Json.Writing
import HostScript.Proofs.Json.WrittenNumbers
import HostScript.Proofs.Machine.Contexts
import HostScript.Proofs.Machine.Covering
import HostScript.Proofs.Machine.Invocations
import HostScript.Proofs.Machine.Objects
import HostScript.Proofs.Machine.Parametric
import HostScript.Proofs.Machine.Registry
import HostScript.Proofs.Machine.Renaming
import HostScript.Proofs.Machine.Rewriting
import HostScript.Proofs.Machine.Scripts
import HostScript.Proofs.Machine.Steps
import HostScript.Proofs.Program.Coding
import HostScript.Proofs.Program.Decoding
import HostScript.Proofs.Program.Hereditary
import HostScript.Proofs.Program.Joining
import HostScript.Proofs.Program.Numbers
import HostScript.Proofs.Program.Sending
import HostScript.Proofs.Program.Truncation
import HostScript.Proofs.Program.Wire
import HostScript.Proofs.Source.Actions
import HostScript.Proofs.Source.Compiling
import HostScript.Proofs.Source.Completeness
import HostScript.Proofs.Source.Composition
import HostScript.Proofs.Source.Cursor
import HostScript.Proofs.Source.ErrorPlace
import HostScript.Proofs.Source.Follow
import HostScript.Proofs.Source.Hereditary
import HostScript.Proofs.Source.History
import HostScript.Proofs.Source.Lexemes
import HostScript.Proofs.Source.Literals
import HostScript.Proofs.Source.LongestLexemes
import HostScript.Proofs.Source.Mending
import HostScript.Proofs.Source.Nonterminals
import HostScript.Proofs.Source.Phrases
import HostScript.Proofs.Source.Portable
import HostScript.Proofs.Source.Printing
import HostScript.Proofs.Source.Progress
import HostScript.Proofs.Source.Recursion
import HostScript.Proofs.Source.Relocation
import HostScript.Proofs.Source.Respacing
import HostScript.Proofs.Source.Soundness
import HostScript.Proofs.Source.Viable
import HostScript.Proofs.Source.WellFormed
import HostScript.Proofs.Text.Runs
import HostScript.Proofs.Text.Splitting
import HostScript.Proofs.Value.Equality
import HostScript.Proofs.Value.Errors
import HostScript.Proofs.Value.Extremes
import HostScript.Proofs.Value.Objects
import HostScript.Proofs.Value.Sorting
import HostScript.Proofs.Value.Splitting
import HostScript.Proofs.Value.Text
import HostScript.Proofs.Value.Unique
import HostScript.Proofs.Value.Writing
import HostScript.RunError
import HostScript.Source.Compile
import HostScript.Source.Grammar
import HostScript.Source.Lexeme
import HostScript.Source.Parser
import HostScript.Source.Scanner
import HostScript.Text.Blank
import HostScript.Text.Case
import HostScript.Text.CaseTables
import HostScript.Text.CodePoints
import HostScript.Text.Printable
import HostScript.Text.Quoted
import HostScript.Text.Search
import HostScript.Value.Basic
import HostScript.Value.Methods
import HostScript.Value.Operators
import HostScript.Value.Text
