import HousePuzzle.Main
import HousePuzzle.Session
import HousePuzzle.Proofs.Name
import HousePuzzle.Proofs.Numeral
import HousePuzzle.Proofs.Registry
import HousePuzzle.Proofs.Validation
import HousePuzzle.Proofs.Validation.Stages
import HousePuzzle.Proofs.Asp.AnswerSet
import HousePuzzle.Proofs.Asp.Reading
import HousePuzzle.Proofs.Session
import HousePuzzle.Proofs.Asp.Scanning
import HousePuzzle.Proofs.Compilation.Meaning
import HousePuzzle.Proofs.Compilation.Reading
import HousePuzzle.Proofs.Compilation.Statements
import HousePuzzle.Proofs.Compilation.Terms
import HousePuzzle.Proofs.Compilation.Rules
import HousePuzzle.Proofs.Compilation.Program
import HousePuzzle.Proofs.Compilation.AnswerSets
import HousePuzzle.Proofs.Decoding.Atoms
import HousePuzzle.Proofs.Decoding
import HousePuzzle.Proofs.Compilation.Lines
import HousePuzzle.Proofs.Aliases
import HousePuzzle.Proofs.Binary64
import HousePuzzle.Proofs.Puzzle.Document
import HousePuzzle.Proofs.Normalization
import HousePuzzle.Proofs.Loading
import HousePuzzle.Proofs.Json.Text
import HousePuzzle.Proofs.Validation.HouseCount
import HousePuzzle.Proofs.Puzzle.Acceptance
import HousePuzzle.Proofs.Checking
import HousePuzzle.Proofs.Validation.Findings
import HousePuzzle.Proofs.Validation.Rules
import HousePuzzle.Proofs.Console.Markup
import HousePuzzle.Proofs.CommandLine.Shell
import HousePuzzle.Proofs.CommandLine.Gate
import HousePuzzle.Proofs.Text.Quoted
import HousePuzzle.Proofs.Text.Width
import HousePuzzle.Proofs.Json.Numbers
import HousePuzzle.Proofs.SolverResult
import HousePuzzle.Proofs.Console.Faults
import HousePuzzle.Proofs.Console.Layout
import HousePuzzle.Proofs.Console.Table
import HousePuzzle.Proofs.Console.Grid
import HousePuzzle.Proofs.Console.Plain
import HousePuzzle.Proofs.CommandLine.Printing
import HousePuzzle.Proofs.CommandLine.Valid
import HousePuzzle.Proofs.CommandLine.Compile
import HousePuzzle.Proofs.CommandLine.Conclusion
import HousePuzzle.Proofs.CommandLine.Solve
import HousePuzzle.Proofs.CommandLine.ReportTable
import HousePuzzle.Proofs.CommandLine.Validate
import HousePuzzle.Proofs.Compilation.Sizes
import HousePuzzle.Proofs.Compilation.Unambiguous
import HousePuzzle.Proofs.Session.Calls
import HousePuzzle.Proofs.Text.Split
import HousePuzzle.Proofs.Validation.Domains
import HousePuzzle.Proofs.Validation.Notices
import HousePuzzle.Proofs.Json.Pointer
import HousePuzzle.Proofs.Validation.Paths
import HousePuzzle.Proofs.Normalization.References
import HousePuzzle.Proofs.Normalization.Idempotence
import HousePuzzle.Proofs.Puzzle.Reading
import HousePuzzle.Proofs.Normalization.Numbers
import HousePuzzle.Proofs.Loading.Files
import HousePuzzle.Proofs.Loading.Numbers
import HousePuzzle.Proofs.SolverResult.Boundary
import HousePuzzle.Proofs.Registry.History
import HousePuzzle.Proofs.Aliases.Parsing
import HousePuzzle.Proofs.Decoding.Faithful
import HousePuzzle.Proofs.Compilation.VoidRules
import HousePuzzle.Proofs.Compilation.Positions
import HousePuzzle.Proofs.Compilation.Quoting
import HousePuzzle.Proofs.Decoding.Grouping
import HousePuzzle.Proofs.Puzzle.Canonical
