import Dockgraph.Number.Numeral
import Dockgraph.Json.Reader
import Dockgraph.Json.Writer
import Dockgraph.Json.Display
import Dockgraph.Text.Alphanumeric
import Dockgraph.Text.Blank
import Dockgraph.Text.Fold
import Dockgraph.Text.Quoted
import Dockgraph.Pattern.Reader
import Dockgraph.Pattern.Search
import Dockgraph.Graph.Document
import Dockgraph.Graph.Order
import Dockgraph.Script.Import
import Dockgraph.Script.Render
import Dockgraph.Lint.Explanation
import Dockgraph.Template.Builtin
import Dockgraph.Yaml.Reader
import Dockgraph.Editor.Basic
import Dockgraph.Report.Csv
import Dockgraph.Report.Html
import Dockgraph.Report.Console
import Dockgraph.File.Collect
import Dockgraph.Lint.RuleFile
import Dockgraph.Lint.Batch
import Dockgraph.CommandLine.Arguments
import Dockgraph.CommandLine.Request
import Dockgraph.CommandLine.Run
import Dockgraph.Main
import Dockgraph.Proofs.Registry
import Dockgraph.Proofs.Order.Progress
import Dockgraph.Proofs.Order.Cycles
import Dockgraph.Proofs.Order.Loop
import Dockgraph.Proofs.Order.Chain
import Dockgraph.Proofs.Ids
import Dockgraph.Proofs.Order.Growth
import Dockgraph.Proofs.Script.Import
import Dockgraph.Proofs.Text.Lines
import Dockgraph.Proofs.Script.RoundTrip
import Dockgraph.Proofs.Script.Reimport
import Dockgraph.Proofs.Template
import Dockgraph.Proofs.Editor.Sequential
import Dockgraph.Proofs.Editor.Removal
import Dockgraph.Proofs.Editor.Connection
import Dockgraph.Proofs.Lint.Issues
import Dockgraph.Proofs.Number.Overflow
import Dockgraph.Proofs.Text.Letters
import Dockgraph.Proofs.Lint.Recognition
import Dockgraph.Proofs.Graph.Document
import Dockgraph.Proofs.CommandLine.Act
import Dockgraph.Proofs.CommandLine.Export
import Dockgraph.Proofs.Editor.Integrity
import Dockgraph.Proofs.Lint.Verdict
import Dockgraph.Proofs.Lint.Continuation
import Dockgraph.Proofs.Lint.Generated
import Dockgraph.Proofs.Json.Literals
import Dockgraph.Proofs.File.Tree
import Dockgraph.Proofs.Json.Layout
import Dockgraph.Proofs.Json.RoundTrip
import Dockgraph.Proofs.Text.Encoding
import Dockgraph.Proofs.File.Write
import Dockgraph.Proofs.Graph.ReadBack
import Dockgraph.Proofs.Script.Placement
import Dockgraph.Proofs.CommandLine.ImportExport
import Dockgraph.Proofs.CommandLine.Words
import Dockgraph.Proofs.Lint.Agreement
import Dockgraph.Proofs.Editor.Atomicity
import Dockgraph.Proofs.Lint.CustomRules
import Dockgraph.Proofs.Lint.Refusal
import Dockgraph.Proofs.Text.Parts
import Dockgraph.Proofs.Lint.WholeText
import Dockgraph.Proofs.Lint.LineEdges
import Dockgraph.Proofs.Lint.InertLines
import Dockgraph.Proofs.File.Collect
import Dockgraph.Proofs.Lint.Schedule
import Dockgraph.Proofs.Lint.Summary
import Dockgraph.Proofs.Lint.Mentions
import Dockgraph.Proofs.Order.Lookups
import Dockgraph.Proofs.Graph.Stable
import Dockgraph.Proofs.Editor.InPlace
import Dockgraph.Proofs.Editor.Undo
import Dockgraph.Proofs.Script.Seam
import Dockgraph.Proofs.Order.Freeing
import Dockgraph.Proofs.Order.Determined
import Dockgraph.Proofs.Report.Guard
import Dockgraph.Proofs.Report.Embedded
import Dockgraph.Proofs.Report.Table
