import OnePass.Analysis.Nesting
import OnePass.Main
import OnePass.Proofs.Derivation.Completeness
import OnePass.Text.Stream
import OnePass.Trace.Entry
import OnePass.Proofs.Derivation.Soundness
import OnePass.Proofs.Scoping.Declaring
import OnePass.Proofs.Scoping.Loops
import OnePass.Proofs.Derivation.Start
import OnePass.Proofs.LoopScope
import OnePass.Proofs.Derivation.Verdict
import OnePass.Proofs.Acceptance
import OnePass.Proofs.Homogeneity
import OnePass.Proofs.Derivation.Reading
import OnePass.Proofs.Derivation.Program
import OnePass.Proofs.Derivation.Spelling
import OnePass.Proofs.SyntaxErrors
import OnePass.Proofs.Derivation.Preorder
import OnePass.Proofs.Lexing.Transcript
import OnePass.Proofs.ParseTree
import OnePass.Proofs.Recording.OpenRules
import OnePass.Proofs.Recording.Rejection
import OnePass.Proofs.Lexing.Classes
import OnePass.Proofs.Lexing.Separation
import OnePass.Proofs.RuleTrace
import OnePass.Proofs.Lexing.Steps
import OnePass.Proofs.LineBreaks
import OnePass.Proofs.Lexing.Layout
import OnePass.Proofs.Printing
import OnePass.Proofs.Lexing.Munch
import OnePass.Proofs.MaximalMunch
import OnePass.Proofs.Derivation.Delivery
import OnePass.Proofs.TokenDelivery
import OnePass.Proofs.Derivation.Settling
import OnePass.Proofs.SameTokens
import OnePass.Proofs.Recording.Complaints
import OnePass.Proofs.RecordedErrors
import OnePass.Proofs.Recording.Histories
import OnePass.Proofs.DeclaredVariables
import OnePass.Proofs.SideBySide.Bond
import OnePass.Proofs.SideBySide.Steps
import OnePass.Proofs.SideBySide.Runs
import OnePass.Proofs.SideBySide.Renaming
import OnePass.Proofs.Renaming
import OnePass.Proofs.SideBySide.Naming
import OnePass.Proofs.Reporting.Echo
import OnePass.Proofs.Reporting.Symbols
import OnePass.Proofs.ReportFlags
import OnePass.Proofs.Reporting.Decoding
import OnePass.Proofs.FileRuns
import OnePass.Proofs.Lexing.Characters
import OnePass.Proofs.LexerCalls
import OnePass.Proofs.Recording.Entries
import OnePass.Proofs.BoundedNesting
import OnePass.Proofs.SideBySide.Framing
import OnePass.Proofs.FrameRule
import OnePass.Proofs.Derivation.Outcome
import OnePass.Proofs.Derivation.Sequence
import OnePass.Proofs.Composition
import OnePass.Proofs.FailureLayers
import OnePass.Proofs.ScopeCalls
import OnePass.Proofs.Recording.Passages
import OnePass.Proofs.BalancedTraces
import OnePass.Proofs.Reporting.Lines
import OnePass.Proofs.SideBySide.Breaks
import OnePass.Proofs.RenderedTraces
import OnePass.Proofs.AsciiSpelling
