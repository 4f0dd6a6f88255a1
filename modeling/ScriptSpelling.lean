import ScriptSpelling.Text.Order
import ScriptSpelling.Text.Words
import ScriptSpelling.Literal
import ScriptSpelling.Category
import ScriptSpelling.Exempt.SkipSet
import ScriptSpelling.Terminal
import ScriptSpelling.Finding
import ScriptSpelling.Dictionary
import ScriptSpelling.Syntax.Source
import ScriptSpelling.Syntax.Lexeme
import ScriptSpelling.Syntax.Reader
import ScriptSpelling.Syntax.Pattern
import ScriptSpelling.Syntax.Quoted
import ScriptSpelling.Syntax.Expression
import ScriptSpelling.Syntax.Exchange
import ScriptSpelling.Syntax.Script
import ScriptSpelling.Syntax.Repair
import ScriptSpelling.Check
import ScriptSpelling.Files.Path
import ScriptSpelling.Files.Reading
import ScriptSpelling.Files.Tree
import ScriptSpelling.Report
import ScriptSpelling.Toml.Scan
import ScriptSpelling.Toml.Text
import ScriptSpelling.Toml.Value
import ScriptSpelling.Toml.Read
import ScriptSpelling.Config.Effective
import ScriptSpelling.Command.Arguments
import ScriptSpelling.Command.Run
import ScriptSpelling.Main
import ScriptSpelling.Proofs.Traversal
import ScriptSpelling.Proofs.Addresses
import ScriptSpelling.Proofs.CursorWalk
import ScriptSpelling.Proofs.FirstFault
import ScriptSpelling.Proofs.Occurrence
import ScriptSpelling.Proofs.CategoryBlocks
import ScriptSpelling.Proofs.Exemption
import ScriptSpelling.Proofs.Options
import ScriptSpelling.Proofs.Escapes
import ScriptSpelling.Proofs.RuntimeValue
import ScriptSpelling.Proofs.NumericEscapes
import ScriptSpelling.Proofs.Passes
import ScriptSpelling.Proofs.LetterRuns
import ScriptSpelling.Proofs.Compound
import ScriptSpelling.Proofs.Sources
import ScriptSpelling.Proofs.Knowledge
import ScriptSpelling.Proofs.ReportOrder
import ScriptSpelling.Proofs.ReportLines
import ScriptSpelling.Proofs.Colors
import ScriptSpelling.Proofs.Paths
import ScriptSpelling.Proofs.SettingsFiles
import ScriptSpelling.Proofs.Runs
import ScriptSpelling.Proofs.NodeTexts
import ScriptSpelling.Proofs.ReaderInvariant
import ScriptSpelling.Proofs.ExpressionTexts
import ScriptSpelling.Proofs.ScriptTexts
import ScriptSpelling.Proofs.PrintedLines
import ScriptSpelling.Proofs.Lines
import ScriptSpelling.Proofs.WordLists
import ScriptSpelling.Proofs.GivenWords
import ScriptSpelling.Proofs.NamedDictionaries
import ScriptSpelling.Proofs.Lowercase
import ScriptSpelling.Proofs.ExemptHistory
import ScriptSpelling.Proofs.AddedWord
import ScriptSpelling.Proofs.LineSort
