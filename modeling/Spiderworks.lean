import Spiderworks.CommandLine.Command
import Spiderworks.CommandLine.Execution
import Spiderworks.CommandLine.Flag
import Spiderworks.CommandLine.Workspace
import Spiderworks.Config.File
import Spiderworks.Config.Settings
import Spiderworks.Css.Matching
import Spiderworks.Css.Parser
import Spiderworks.Css.Selector
import Spiderworks.Css.Token
import Spiderworks.Decimal.Parts
import Spiderworks.Decimal.Reader
import Spiderworks.Decimal.Shortest
import Spiderworks.Digest.Sha256
import Spiderworks.Disk.Basic
import Spiderworks.Disk.Path
import Spiderworks.Disk.Walk
import Spiderworks.Engine.Bookkeeping
import Spiderworks.Engine.DirectCall
import Spiderworks.Engine.DirectResult
import Spiderworks.Engine.Error
import Spiderworks.Engine.Hub
import Spiderworks.Engine.Layout
import Spiderworks.Engine.Machine
import Spiderworks.Engine.RateLimit
import Spiderworks.Engine.Registry
import Spiderworks.Engine.Run
import Spiderworks.Engine.Schedule
import Spiderworks.Engine.Site
import Spiderworks.Engine.Start
import Spiderworks.Engine.Stop
import Spiderworks.Engine.Wait
import Spiderworks.Extract.Records
import Spiderworks.Extract.Select
import Spiderworks.Html.Arena
import Spiderworks.Html.Builder.Basic
import Spiderworks.Html.Builder.Body
import Spiderworks.Html.Builder.Formatting
import Spiderworks.Html.Builder.Rules
import Spiderworks.Html.Builder.Table
import Spiderworks.Html.Doctype
import Spiderworks.Html.EntityTable
import Spiderworks.Html.Reader
import Spiderworks.Html.Reference
import Spiderworks.Html.Scanner
import Spiderworks.Html.Token
import Spiderworks.Json.Basic
import Spiderworks.Json.Number
import Spiderworks.Json.Printer
import Spiderworks.Json.Reader
import Spiderworks.Main
import Spiderworks.Output.FileKind
import Spiderworks.Output.Ingest
import Spiderworks.Output.Lines
import Spiderworks.Page.Copy
import Spiderworks.Page.Html
import Spiderworks.Page.Spot
import Spiderworks.Page.Tree
import Spiderworks.Process.Child
import Spiderworks.Process.Commands
import Spiderworks.Process.ExitCode
import Spiderworks.Proofs.Decimal.Value
import Spiderworks.Proofs.Disk.Paths
import Spiderworks.Proofs.Disk.Persistence
import Spiderworks.Proofs.Disk.Places
import Spiderworks.Proofs.Disk.Walk
import Spiderworks.Proofs.Engine.Admission
import Spiderworks.Proofs.Engine.ArtifactNames
import Spiderworks.Proofs.Engine.Conservation
import Spiderworks.Proofs.Engine.Counters
import Spiderworks.Proofs.Engine.Denial
import Spiderworks.Proofs.Engine.DirectCalls
import Spiderworks.Proofs.Engine.DiskSteps
import Spiderworks.Proofs.Engine.Entries
import Spiderworks.Proofs.Engine.EntryOrder
import Spiderworks.Proofs.Engine.Finalisation
import Spiderworks.Proofs.Engine.Frame
import Spiderworks.Proofs.Engine.Growth
import Spiderworks.Proofs.Engine.History
import Spiderworks.Proofs.Engine.Interval
import Spiderworks.Proofs.Engine.Isolation
import Spiderworks.Proofs.Engine.Lawful
import Spiderworks.Proofs.Engine.Ledger
import Spiderworks.Proofs.Engine.LogTrace
import Spiderworks.Proofs.Engine.Notes
import Spiderworks.Proofs.Engine.Patience
import Spiderworks.Proofs.Engine.ProgramDirectory
import Spiderworks.Proofs.Engine.ProgramFiles
import Spiderworks.Proofs.Engine.Refusals
import Spiderworks.Proofs.Engine.ReportLine
import Spiderworks.Proofs.Engine.Reports
import Spiderworks.Proofs.Engine.ResultFields
import Spiderworks.Proofs.Engine.RunLog
import Spiderworks.Proofs.Engine.Soundness
import Spiderworks.Proofs.Engine.Spacing
import Spiderworks.Proofs.Engine.Stamps
import Spiderworks.Proofs.Engine.Steps
import Spiderworks.Proofs.Engine.StoredStatus
import Spiderworks.Proofs.Engine.Waiting
import Spiderworks.Proofs.Extract.DocumentOrder
import Spiderworks.Proofs.Extract.Independence
import Spiderworks.Proofs.Extract.Items
import Spiderworks.Proofs.Extract.Mirroring
import Spiderworks.Proofs.Extract.Records
import Spiderworks.Proofs.Fallible
import Spiderworks.Proofs.Json.Canonical
import Spiderworks.Proofs.Json.Compact
import Spiderworks.Proofs.Json.Entries
import Spiderworks.Proofs.Json.Numbers
import Spiderworks.Proofs.Json.Objects
import Spiderworks.Proofs.Json.Printed
import Spiderworks.Proofs.Json.Values
import Spiderworks.Proofs.Output.Ingestion
import Spiderworks.Proofs.Output.LogLines
import Spiderworks.Proofs.Output.Scan
import Spiderworks.Proofs.Page.Copying
import Spiderworks.Proofs.Page.Descent
import Spiderworks.Proofs.Registry.Automata
import Spiderworks.Proofs.Registry.Cell
import Spiderworks.Proofs.Registry.Lookup
import Spiderworks.Proofs.Registry.Reflection
import Spiderworks.Proofs.Registry.Releases
import Spiderworks.Proofs.Rules.Config
import Spiderworks.Proofs.Rules.Reading
import Spiderworks.Proofs.Rules.Stored
import Spiderworks.Proofs.Script.Constants
import Spiderworks.Proofs.Script.Guarded
import Spiderworks.Proofs.Script.Language
import Spiderworks.Proofs.Store.Batches
import Spiderworks.Proofs.Store.Changes
import Spiderworks.Proofs.Store.Counting
import Spiderworks.Proofs.Store.Definitions
import Spiderworks.Proofs.Store.Filing
import Spiderworks.Proofs.Store.Frame
import Spiderworks.Proofs.Store.Ids
import Spiderworks.Proofs.Store.Log
import Spiderworks.Proofs.Store.Notes
import Spiderworks.Proofs.Store.Operations
import Spiderworks.Proofs.Store.Requests
import Spiderworks.Proofs.Store.Rows
import Spiderworks.Proofs.Store.Undoing
import Spiderworks.Proofs.Store.Writes
import Spiderworks.Proofs.Text.Digits
import Spiderworks.Proofs.Text.Trimmed
import Spiderworks.Proofs.Time.Readings
import Spiderworks.Proofs.Time.Span
import Spiderworks.Proofs.Time.Written
import Spiderworks.Proofs.Worker.Attempts
import Spiderworks.Proofs.Worker.Documents
import Spiderworks.Proofs.Worker.Spans
import Spiderworks.Proofs.XPath.Ascending
import Spiderworks.Proofs.XPath.Inward
import Spiderworks.Proofs.XPath.Labels
import Spiderworks.Proofs.XPath.Nesting
import Spiderworks.Proofs.XPath.NodeSets
import Spiderworks.Proofs.XPath.Placement
import Spiderworks.Rules.Basic
import Spiderworks.Rules.RuleSet
import Spiderworks.Rules.Stored
import Spiderworks.Script.Fragments
import Spiderworks.Script.Sections
import Spiderworks.Shell.Run
import Spiderworks.Shell.Script
import Spiderworks.Spider.Definition
import Spiderworks.Spider.Status
import Spiderworks.Spider.Synthesis
import Spiderworks.Store.Basic
import Spiderworks.Store.Query
import Spiderworks.Store.Record
import Spiderworks.Store.Shared
import Spiderworks.Text.Blank
import Spiderworks.Text.Digits
import Spiderworks.Text.Lines
import Spiderworks.Text.PrintingTable
import Spiderworks.Text.Quoted
import Spiderworks.Text.Spans
import Spiderworks.Text.Utf8
import Spiderworks.Time.Calendar
import Spiderworks.Time.Instant
import Spiderworks.Time.Reader
import Spiderworks.Toml.Basic
import Spiderworks.Toml.Reader
import Spiderworks.Toml.Token
import Spiderworks.Url.Address
import Spiderworks.Url.Domain
import Spiderworks.Url.DomainTable
import Spiderworks.Url.Parser
import Spiderworks.Url.Punycode
import Spiderworks.Worker.Decode
import Spiderworks.Worker.Program
import Spiderworks.Worker.Request
import Spiderworks.Worker.Run
import Spiderworks.XPath.Evaluation
import Spiderworks.XPath.Expr
import Spiderworks.XPath.Functions
import Spiderworks.XPath.Outline
import Spiderworks.XPath.Parser
import Spiderworks.XPath.Token
import Spiderworks.XPath.Value
