import TraceExport.Main
import TraceExport.Decimal.Layout
import TraceExport.Decimal.Nearest
import TraceExport.Exporter.Script
import TraceExport.Json.Printer
import TraceExport.Json.Reader
import TraceExport.Profile
import TraceExport.Provider.Script
import TraceExport.Proofs.Exporter.Outlet
import TraceExport.Proofs.Registry.History
import TraceExport.Proofs.Exporter.Observers
import TraceExport.Proofs.Exporter.Follow
import TraceExport.Proofs.Exporter.Inert
import TraceExport.Proofs.Provider.Moments
import TraceExport.Proofs.Exporter.Ownership
import TraceExport.Proofs.Registry.Selection
import TraceExport.Proofs.Exporter.Losses
import TraceExport.Proofs.Workload.Replay
import TraceExport.Proofs.Registry.Check
import TraceExport.Proofs.Session.Parts
import TraceExport.Proofs.Settings.Entries
import TraceExport.Proofs.Sink.Delivery
import TraceExport.Proofs.Session.Outcome
import TraceExport.Proofs.Keyword.Grammar
import TraceExport.Proofs.Keyword.Spelling
import TraceExport.Proofs.Event.Record
import TraceExport.Proofs.Profile.Text
import TraceExport.Proofs.Exporter.Admission
import TraceExport.Proofs.Exporter.Midway
import TraceExport.Proofs.Exporter.Readings
import TraceExport.Proofs.Exporter.Changes
import TraceExport.Proofs.CommandLine.Table
import TraceExport.Proofs.Exporter.Records
import TraceExport.Proofs.Json.Number
import TraceExport.Proofs.Decimal.Layout
import TraceExport.Proofs.Event.Arg
import TraceExport.Proofs.Exporter.Group
import TraceExport.Proofs.Settings.Workload
import TraceExport.Proofs.Decimal.Agreement
import TraceExport.Proofs.Toml.Tree
import TraceExport.Proofs.Settings.Argument
import TraceExport.Proofs.CommandLine.Precedence
import TraceExport.Proofs.Sink.Lines
