import NotebookLint.Main
import NotebookLint.Rules.File
import NotebookLint.Proofs.Style.WordFindings
import NotebookLint.Proofs.Style.Remark
import NotebookLint.Proofs.Style.Locality
import NotebookLint.Proofs.Lint.Split
import NotebookLint.Proofs.Lint.Advice
import NotebookLint.Proofs.Program.Verdict
import NotebookLint.Proofs.Report.Reading
import NotebookLint.Proofs.Report.Messages
import NotebookLint.Proofs.Text.Standing
import NotebookLint.Proofs.Json.Ending
import NotebookLint.Proofs.Notebook.Damage
import NotebookLint.Proofs.Json.Reading
import NotebookLint.Proofs.Json.WholeNumber
import NotebookLint.Proofs.Notebook.RoundTrip
import NotebookLint.Proofs.Rules.Settings
import NotebookLint.Proofs.Rules.Written
import NotebookLint.Proofs.Toml.Scanning
import NotebookLint.Proofs.Toml.Building
import NotebookLint.Proofs.Yaml.Quoting
import NotebookLint.Proofs.Yaml.Scanning
import NotebookLint.Proofs.Yaml.Building
import NotebookLint.Proofs.Rules.Agreement
import NotebookLint.Proofs.Style.BareFindings
import NotebookLint.Proofs.Style.Remedy
import NotebookLint.Proofs.Rules.Table
import NotebookLint.Proofs.Text.SmallLetters
import NotebookLint.Proofs.Rules.FixedPoint
import NotebookLint.Proofs.Style.SectionHeading
import NotebookLint.Proofs.Text.Surroundings
import NotebookLint.Proofs.Rules.Keywords
import NotebookLint.Proofs.Text.AsciiLetters
import NotebookLint.Proofs.Rules.StandardKeywords
import NotebookLint.Proofs.Rules.EmptyText
import NotebookLint.Proofs.Style.CommentLine
import NotebookLint.Proofs.Text.CarriageReturns
import NotebookLint.Proofs.Lint.LineEndings
import NotebookLint.Proofs.Style.LineCount
import NotebookLint.Proofs.Style.OpeningComment
import NotebookLint.Proofs.Style.Monotone
import NotebookLint.Proofs.Arguments.Accepted
import NotebookLint.Proofs.Arguments.Decisive
import NotebookLint.Proofs.Report.Banner
