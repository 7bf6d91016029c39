import PatternLint.Catalog.Preset
import PatternLint.Command.Run
import PatternLint.Command.Sources
import PatternLint.Glob
import PatternLint.Ignore.Rule
import PatternLint.LintResult
import PatternLint.Loading
import PatternLint.Main
import PatternLint.Proofs.Analysis.Order
import PatternLint.Proofs.Catalog.Loading
import PatternLint.Proofs.Catalog.Merging
import PatternLint.Proofs.Configuration
import PatternLint.Proofs.Document.Lines
import PatternLint.Proofs.Document.Position
import PatternLint.Proofs.Edit
import PatternLint.Proofs.Entries
import PatternLint.Proofs.Exclusion
import PatternLint.Proofs.JsonValue
import PatternLint.Proofs.LintResult
import PatternLint.Proofs.LintResult.Json
import PatternLint.Proofs.Match.Coverage
import PatternLint.Proofs.Registry.Lookup
import PatternLint.Proofs.Report
import PatternLint.Proofs.Scan
import PatternLint.Proofs.Session.Filter
import PatternLint.Proofs.Session.Listener
import PatternLint.Proofs.Session.Summary
import PatternLint.Proofs.Snippet
import PatternLint.Proofs.Suppression.Effect
import PatternLint.Proofs.Suppression.Frame
import PatternLint.Proofs.Suppression.OtherCodes
import PatternLint.Proofs.Text.Names
import PatternLint.Proofs.Text.Reading
import PatternLint.Proofs.Text.Span
import PatternLint.Proofs.Word
import PatternLint.Report
import PatternLint.RulePage
import PatternLint.Scan
import PatternLint.Session
import PatternLint.Settings
import PatternLint.Snippet
import PatternLint.StarterConfig
import PatternLint.Suppression.Fix
import PatternLint.Workspace
