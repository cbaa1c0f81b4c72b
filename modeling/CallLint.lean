import CallLint.Text.Blank
import CallLint.Text.Printable
import CallLint.Text.Word
import CallLint.Text.Identifier
import CallLint.Text.Upper
import CallLint.Text.Normal
import CallLint.Text.Quoted
import CallLint.Text.Escape
import CallLint.Text.Lines
import CallLint.Decimal.Shortest
import CallLint.Tree.Basic
import CallLint.Source.ToTree
import CallLint.Source.Lexer
import CallLint.Source.Parse
import CallLint.Source.Grammar.Strings
import CallLint.Source.Grammar.Target
import CallLint.Analysis.Analyzer
import CallLint.Fix.Session
import CallLint.Report.Table
import CallLint.Report.Document
import CallLint.Files.Find
import CallLint.Settings.File
import CallLint.CommandLine.Run
import CallLint.Main
import CallLint.Proofs.Tree.Address
import CallLint.Proofs.Tree.BreadthFirst
import CallLint.Proofs.Tree.Field
import CallLint.Proofs.Tree.Kinds
import CallLint.Proofs.Analysis.LiteralArguments
import CallLint.Proofs.Source.WellFormed
import CallLint.Proofs.Analysis.Findings
import CallLint.Proofs.Fix.Bindings
import CallLint.Proofs.Fix.Extraction
import CallLint.Proofs.Fix.FreshNames
import CallLint.Proofs.Fix.Arguments
import CallLint.Proofs.Printer.Steps
import CallLint.Proofs.Printer.Writers
import CallLint.Proofs.Printer.Print
import CallLint.Proofs.Fix.Total
import CallLint.Proofs.Fix.Unwritable
import CallLint.Proofs.Scan.Agreement
import CallLint.Proofs.Fix.NormalNames
import CallLint.Proofs.Source.Reading
import CallLint.Proofs.Source.TokenOrder
import CallLint.Proofs.Source.Phrase
import CallLint.Proofs.Source.PhraseTokens
import CallLint.Proofs.Source.PhraseSound
import CallLint.Proofs.Source.PatternPhrase
import CallLint.Proofs.Source.StmtPhrase
import CallLint.Proofs.Source.StmtSound
import CallLint.Proofs.Source.Placed
import CallLint.Proofs.Source.FormatFields
import CallLint.Proofs.Source.PlacedTree
import CallLint.Proofs.Source.Layout
import CallLint.Proofs.Fix.Header
import CallLint.Proofs.Fix.Blocks
import CallLint.Proofs.Text.NormalForm
import CallLint.Proofs.Fix.ReusedNames
import CallLint.Proofs.Report.Counts
import CallLint.Proofs.Files.Paths
import CallLint.Proofs.Scan.Independence
import CallLint.Proofs.CommandLine.ExitCode
import CallLint.Proofs.Fix.SameCall
import CallLint.Proofs.Source.Lookahead
import CallLint.Proofs.Source.LexerSteps
import CallLint.Proofs.Source.Transplant
import CallLint.Proofs.Source.Stretches
import CallLint.Proofs.Text.Offsets
import CallLint.Proofs.Source.Splice
import CallLint.Proofs.Fix.CallText
import CallLint.Proofs.Fix.Replacement
import CallLint.Proofs.Analysis.EvaluationFaults
import CallLint.Proofs.Settings.Acceptance
import CallLint.Proofs.Fix.Declines
import CallLint.Proofs.Source.TokenPlaces
import CallLint.Proofs.Fix.ApplyFailures
import CallLint.Proofs.Source.Literals
import CallLint.Proofs.Text.Breaks
import CallLint.Proofs.Fix.Insertion
import CallLint.Proofs.Fix.BreakStyle
import CallLint.Proofs.Fix.ModuleNames
import CallLint.Proofs.Text.Columns
import CallLint.Proofs.Text.LineCuts
import CallLint.Proofs.Sorting
import CallLint.Proofs.Report.WorstFirst
import CallLint.Proofs.Files.Listing
import CallLint.Proofs.Tree.Levels
import CallLint.Proofs.Fix.AsciiNames
