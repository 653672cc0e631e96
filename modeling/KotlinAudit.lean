import KotlinAudit.Aggregation
import KotlinAudit.Analyzer
import KotlinAudit.Audit.Inspection
import KotlinAudit.Audit.Pool
import KotlinAudit.Audit.Run
import KotlinAudit.Baseline.Basic
import KotlinAudit.Baseline.Compare
import KotlinAudit.Baseline.Store
import KotlinAudit.Bundled
import KotlinAudit.CommandLine.Program
import KotlinAudit.CommandLine.Request
import KotlinAudit.Config.Basic
import KotlinAudit.Config.Load
import KotlinAudit.Console.Argument.Reader
import KotlinAudit.Console.Argument.Token
import KotlinAudit.Console.EmojiNames
import KotlinAudit.Console.Markup
import KotlinAudit.Console.Overview
import KotlinAudit.Console.Status
import KotlinAudit.Console.Style
import KotlinAudit.Console.Table
import KotlinAudit.Console.Width
import KotlinAudit.Decimal.Binary64
import KotlinAudit.Decimal.Numeral
import KotlinAudit.Decimal.Shortest
import KotlinAudit.Discovery.Scan
import KotlinAudit.Discovery.Selection
import KotlinAudit.FileTree.Basic
import KotlinAudit.FileTree.Snapshot
import KotlinAudit.FileTree.Update
import KotlinAudit.Finding.Basic
import KotlinAudit.Glob
import KotlinAudit.Json.Basic
import KotlinAudit.Json.Reader
import KotlinAudit.Json.Token
import KotlinAudit.Json.Writer
import KotlinAudit.Keyed
import KotlinAudit.Linter.Call
import KotlinAudit.Linter.Issue
import KotlinAudit.Linter.Local
import KotlinAudit.Linter.Location
import KotlinAudit.Linter.Report
import KotlinAudit.Main
import KotlinAudit.Metrics.Basic
import KotlinAudit.Metrics.Estimate
import KotlinAudit.Path
import KotlinAudit.Pattern.Basic
import KotlinAudit.Pattern.Search
import KotlinAudit.Pattern.Syntax
import KotlinAudit.Proofs.Aggregation.Order
import KotlinAudit.Proofs.Aggregation.Resolved
import KotlinAudit.Proofs.Aggregation.Views
import KotlinAudit.Proofs.Audit.Agreement
import KotlinAudit.Proofs.Audit.Artefacts
import KotlinAudit.Proofs.Audit.Contribution
import KotlinAudit.Proofs.Audit.Delivery
import KotlinAudit.Proofs.Audit.Exposure
import KotlinAudit.Proofs.Audit.Footprint
import KotlinAudit.Proofs.Audit.History
import KotlinAudit.Proofs.Audit.Identity
import KotlinAudit.Proofs.Audit.Inspection
import KotlinAudit.Proofs.Audit.Operations
import KotlinAudit.Proofs.Audit.Persist
import KotlinAudit.Proofs.Audit.Persistence
import KotlinAudit.Proofs.Audit.Progress
import KotlinAudit.Proofs.Audit.Request
import KotlinAudit.Proofs.Audit.Session
import KotlinAudit.Proofs.Baseline.Compare
import KotlinAudit.Proofs.Baseline.Directions
import KotlinAudit.Proofs.Baseline.Kept
import KotlinAudit.Proofs.Baseline.Replay
import KotlinAudit.Proofs.Baseline.Shift
import KotlinAudit.Proofs.Baseline.Stored
import KotlinAudit.Proofs.CommandLine.Comparison
import KotlinAudit.Proofs.CommandLine.Ending
import KotlinAudit.Proofs.Config.Load
import KotlinAudit.Proofs.Console.Layout
import KotlinAudit.Proofs.Console.Overview
import KotlinAudit.Proofs.Decimal.Layout
import KotlinAudit.Proofs.Decimal.Nearest
import KotlinAudit.Proofs.Decimal.Numeral
import KotlinAudit.Proofs.Decimal.Shortest
import KotlinAudit.Proofs.Discovery.Pruning
import KotlinAudit.Proofs.Discovery.Sighted
import KotlinAudit.Proofs.Discovery.Targets
import KotlinAudit.Proofs.Discovery.Walk
import KotlinAudit.Proofs.FileTree.Arrival
import KotlinAudit.Proofs.FileTree.Deleting
import KotlinAudit.Proofs.FileTree.Edits
import KotlinAudit.Proofs.FileTree.Elsewhere
import KotlinAudit.Proofs.FileTree.Finding
import KotlinAudit.Proofs.FileTree.Listing
import KotlinAudit.Proofs.FileTree.Making
import KotlinAudit.Proofs.FileTree.Plain
import KotlinAudit.Proofs.FileTree.Proper
import KotlinAudit.Proofs.FileTree.Shelf
import KotlinAudit.Proofs.FileTree.Writing
import KotlinAudit.Proofs.Finding.Identifier
import KotlinAudit.Proofs.Glob.Reading
import KotlinAudit.Proofs.Json.Lexing
import KotlinAudit.Proofs.Json.Line
import KotlinAudit.Proofs.Json.Rereading
import KotlinAudit.Proofs.Json.Steps
import KotlinAudit.Proofs.Json.Torn
import KotlinAudit.Proofs.Keyed
import KotlinAudit.Proofs.Layer
import KotlinAudit.Proofs.Linter.Meeting
import KotlinAudit.Proofs.Linter.Run
import KotlinAudit.Proofs.Metrics.Coverage
import KotlinAudit.Proofs.Metrics.Measurable
import KotlinAudit.Proofs.Metrics.Regular
import KotlinAudit.Proofs.Metrics.Stated
import KotlinAudit.Proofs.Outcome
import KotlinAudit.Proofs.Path
import KotlinAudit.Proofs.Pattern.Announced
import KotlinAudit.Proofs.Pattern.Capture
import KotlinAudit.Proofs.Pattern.Captured
import KotlinAudit.Proofs.Pattern.Language
import KotlinAudit.Proofs.Pattern.Occurrence
import KotlinAudit.Proofs.Pattern.Replacing
import KotlinAudit.Proofs.Pattern.Ways
import KotlinAudit.Proofs.Record.Checked
import KotlinAudit.Proofs.Registry
import KotlinAudit.Proofs.Report.Sections
import KotlinAudit.Proofs.Rule.Averages
import KotlinAudit.Proofs.Rule.Catalogue
import KotlinAudit.Proofs.Rule.Composable
import KotlinAudit.Proofs.Rule.Dao
import KotlinAudit.Proofs.Rule.Exhibit
import KotlinAudit.Proofs.Rule.Function
import KotlinAudit.Proofs.Rule.Handler
import KotlinAudit.Proofs.Rule.Header
import KotlinAudit.Proofs.Rule.Loop
import KotlinAudit.Proofs.Rule.Naming
import KotlinAudit.Proofs.Rule.Placement
import KotlinAudit.Proofs.Rule.Relocation
import KotlinAudit.Proofs.Rule.Security
import KotlinAudit.Proofs.Rule.Sentence
import KotlinAudit.Proofs.Rule.Smell
import KotlinAudit.Proofs.Rule.SourceSet
import KotlinAudit.Proofs.Rule.ViewModel
import KotlinAudit.Proofs.Source.Block
import KotlinAudit.Proofs.Source.Declaration
import KotlinAudit.Proofs.Source.Enclosed
import KotlinAudit.Proofs.Source.Noise
import KotlinAudit.Proofs.Source.Parameters
import KotlinAudit.Proofs.Stable
import KotlinAudit.Proofs.Text.Lines
import KotlinAudit.Proofs.Text.NameCase
import KotlinAudit.Proofs.Text.Scan
import KotlinAudit.Proofs.Text.Utf8
import KotlinAudit.Proofs.Toml.Budget
import KotlinAudit.Record.Field
import KotlinAudit.Registry
import KotlinAudit.Report.Markdown
import KotlinAudit.Result
import KotlinAudit.Rule.Architecture
import KotlinAudit.Rule.CodeSmell
import KotlinAudit.Rule.Compose
import KotlinAudit.Rule.Database
import KotlinAudit.Rule.DependencyInjection
import KotlinAudit.Rule.Documentation
import KotlinAudit.Rule.ErrorHandling
import KotlinAudit.Rule.Naming
import KotlinAudit.Rule.Performance
import KotlinAudit.Rule.Security
import KotlinAudit.Rule.StateManagement
import KotlinAudit.Rule.TestCoverage
import KotlinAudit.Setting.Basic
import KotlinAudit.Shell.Arithmetic
import KotlinAudit.Shell.Basic
import KotlinAudit.Shell.Builtin
import KotlinAudit.Shell.Call
import KotlinAudit.Shell.Condition
import KotlinAudit.Shell.Evaluation
import KotlinAudit.Shell.Fields
import KotlinAudit.Shell.Filter
import KotlinAudit.Shell.Format
import KotlinAudit.Shell.Program
import KotlinAudit.Shell.Reader
import KotlinAudit.Shell.Script
import KotlinAudit.Shell.State
import KotlinAudit.Source.Complexity
import KotlinAudit.Source.Declaration
import KotlinAudit.Source.Reach
import KotlinAudit.SourceFile
import KotlinAudit.Text.CaseMapping
import KotlinAudit.Text.CaseTables
import KotlinAudit.Text.Character
import KotlinAudit.Text.CharacterTables
import KotlinAudit.Text.Identifier
import KotlinAudit.Text.Lines
import KotlinAudit.Text.Quoted
import KotlinAudit.Text.Scan
import KotlinAudit.Text.Utf8
import KotlinAudit.Toml.Document
import KotlinAudit.Toml.Plain
import KotlinAudit.Toml.Quoted
import KotlinAudit.Workspace
