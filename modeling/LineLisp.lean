import LineLisp.Main
import LineLisp.Proofs.Recursion
import LineLisp.Proofs.Limits
import LineLisp.Proofs.Semantics
import LineLisp.Proofs.Semantics.Soundness
import LineLisp.Proofs.Semantics.Adequacy
import LineLisp.Proofs.Grammar
import LineLisp.Proofs.Parser
import LineLisp.Proofs.Parser.Prefix
import LineLisp.Proofs.Text.Classes
import LineLisp.Proofs.Pattern.Longest
import LineLisp.Proofs.Pattern.Alone
import LineLisp.Proofs.Lexer
import LineLisp.Proofs.Lexer.Coverage
import LineLisp.Proofs.Lexer.Spacing
import LineLisp.Proofs.Grammar.Parts
import LineLisp.Proofs.Lexer.Spelling
import LineLisp.Proofs.Relocation
import LineLisp.Proofs.Simulation
import LineLisp.Proofs.Simulation.Rules
import LineLisp.Proofs.Simulation.Evaluation
import LineLisp.Proofs.Simulation.Settings
import LineLisp.Proofs.Policy
import LineLisp.Proofs.Fatal
import LineLisp.Proofs.Callers
import LineLisp.Proofs.Parser.Relocation
import LineLisp.Proofs.Layout
import LineLisp.Proofs.Simulation.Guided
import LineLisp.Proofs.Definitions
import LineLisp.Proofs.Vocabulary
import LineLisp.Proofs.WellFormed
import LineLisp.Proofs.Reachable
import LineLisp.Proofs.Depth
import LineLisp.Proofs.Frame
import LineLisp.Proofs.Scope
import LineLisp.Proofs.Substitution
import LineLisp.Proofs.Lexer.Segment
import LineLisp.Proofs.Parser.Spans
import LineLisp.Proofs.Lexer.Quotes
import LineLisp.Proofs.Parser.Quotes
import LineLisp.Proofs.Lexer.Pieces
import LineLisp.Proofs.Log
import LineLisp.Proofs.Shortcut
import LineLisp.Proofs.Places
import LineLisp.Proofs.Text.Lines
import LineLisp.Proofs.Terminal
import LineLisp.Proofs.Console
import LineLisp.Proofs.Lexer.Progress
import LineLisp.Proofs.Pattern.Choice
import LineLisp.Proofs.Lexer.Endings
import LineLisp.Proofs.Number.Nearest
import LineLisp.Proofs.Number.Printer
import LineLisp.Proofs.Retyped
import LineLisp.Proofs.Number.Rounding
import LineLisp.Proofs.Rendering
import LineLisp.Proofs.Blank
import LineLisp.Proofs.Text.Order
import LineLisp.Proofs.History
