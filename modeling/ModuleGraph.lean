import ModuleGraph.Api.Body
import ModuleGraph.Api.Response
import ModuleGraph.Api.Route
import ModuleGraph.Api.Server
import ModuleGraph.Attempt
import ModuleGraph.Catalog.Basic
import ModuleGraph.Catalog.BuiltIn
import ModuleGraph.Catalog.Encode
import ModuleGraph.Catalog.Registry
import ModuleGraph.CommandLine.FilePath
import ModuleGraph.CommandLine.FileTree
import ModuleGraph.CommandLine.Help
import ModuleGraph.CommandLine.Options
import ModuleGraph.CommandLine.Plan
import ModuleGraph.CommandLine.Run
import ModuleGraph.Document.Decode
import ModuleGraph.Document.Encode
import ModuleGraph.Document.Load
import ModuleGraph.Document.Schema
import ModuleGraph.Flow.Analysis
import ModuleGraph.Flow.Attempt
import ModuleGraph.Flow.Dependencies
import ModuleGraph.Flow.Encode
import ModuleGraph.Flow.Walk
import ModuleGraph.FreshId
import ModuleGraph.Graph.Basic
import ModuleGraph.Graph.Encode
import ModuleGraph.Graph.Label
import ModuleGraph.Graph.PortType
import ModuleGraph.Graph.Resolution
import ModuleGraph.Graph.Verdict
import ModuleGraph.Json.Amount
import ModuleGraph.Json.Identity
import ModuleGraph.Json.Printer
import ModuleGraph.Json.Reader
import ModuleGraph.Json.Token
import ModuleGraph.Json.Value
import ModuleGraph.Json.Wording
import ModuleGraph.Log
import ModuleGraph.Main
import ModuleGraph.Naming
import ModuleGraph.Proofs.Api.Bodies
import ModuleGraph.Proofs.Api.DryRun
import ModuleGraph.Proofs.Api.Effects
import ModuleGraph.Proofs.Api.Requests
import ModuleGraph.Proofs.Api.Sending
import ModuleGraph.Proofs.Api.SingleStart
import ModuleGraph.Proofs.Api.StrictSession
import ModuleGraph.Proofs.Attempts
import ModuleGraph.Proofs.CamelCase
import ModuleGraph.Proofs.CaseImages
import ModuleGraph.Proofs.CommandLine.Containment
import ModuleGraph.Proofs.CommandLine.FilePath
import ModuleGraph.Proofs.CommandLine.ServerAgreement
import ModuleGraph.Proofs.CommandLine.Targets
import ModuleGraph.Proofs.CommandLine.Writing
import ModuleGraph.Proofs.Distinct
import ModuleGraph.Proofs.Document.Canonical
import ModuleGraph.Proofs.Document.Denotation
import ModuleGraph.Proofs.Document.Encoding
import ModuleGraph.Proofs.Document.Grammar
import ModuleGraph.Proofs.Document.Inspection
import ModuleGraph.Proofs.Document.Unguarded
import ModuleGraph.Proofs.Document.Warnings
import ModuleGraph.Proofs.Flow.Cycles
import ModuleGraph.Proofs.Flow.DependencyTable
import ModuleGraph.Proofs.Flow.ExecutionOrder
import ModuleGraph.Proofs.Flow.Progress
import ModuleGraph.Proofs.Flow.Reachability
import ModuleGraph.Proofs.Flow.Recursion
import ModuleGraph.Proofs.Flow.Unguarded
import ModuleGraph.Proofs.Flow.WalkInvariant
import ModuleGraph.Proofs.FreshId
import ModuleGraph.Proofs.Graph.Lookup
import ModuleGraph.Proofs.Graph.Verdict
import ModuleGraph.Proofs.NameDigits
import ModuleGraph.Proofs.Naming
import ModuleGraph.Proofs.Schedule.Agreement
import ModuleGraph.Proofs.Schedule.BoundAccounts
import ModuleGraph.Proofs.Schedule.EntryNames
import ModuleGraph.Proofs.Schedule.Inert
import ModuleGraph.Proofs.Schedule.ModuleNames
import ModuleGraph.Proofs.Schedule.ModuleScope
import ModuleGraph.Proofs.Schedule.Numbering
import ModuleGraph.Proofs.Schedule.Unguarded
import ModuleGraph.Proofs.Schedule.UsableNames
import ModuleGraph.Proofs.Session.Commands
import ModuleGraph.Proofs.Session.HistoryStep
import ModuleGraph.Proofs.Session.WellFormed
import ModuleGraph.Proofs.Session.Zipper
import ModuleGraph.Proofs.Source.Brackets
import ModuleGraph.Proofs.Source.CrateRoot
import ModuleGraph.Proofs.Source.Declarations
import ModuleGraph.Proofs.Source.Escapes
import ModuleGraph.Proofs.Source.InstructionModule
import ModuleGraph.Proofs.Source.LineEnds
import ModuleGraph.Proofs.Source.LineTerminators
import ModuleGraph.Proofs.Source.Reading
import ModuleGraph.Proofs.Source.Regions
import ModuleGraph.Proofs.Source.TestCalls
import ModuleGraph.Proofs.Workspace.Blobs
import ModuleGraph.Proofs.Workspace.FileMap
import ModuleGraph.Schedule.Attempt
import ModuleGraph.Schedule.Basic
import ModuleGraph.Schedule.Build
import ModuleGraph.Session.Edit
import ModuleGraph.Session.Editor
import ModuleGraph.Session.History
import ModuleGraph.Settings
import ModuleGraph.Source.Category
import ModuleGraph.Source.Literal
import ModuleGraph.Source.Manifest
import ModuleGraph.Source.Program
import ModuleGraph.Source.Script
import ModuleGraph.Source.TestSuite
import ModuleGraph.Text.Basic
import ModuleGraph.Text.Blank
import ModuleGraph.Text.Case
import ModuleGraph.Text.Case.Context
import ModuleGraph.Text.Case.Mapping
import ModuleGraph.Text.Digit
import ModuleGraph.Text.Encoding
import ModuleGraph.Text.Hex
import ModuleGraph.Text.Lines
import ModuleGraph.Text.Numeral
import ModuleGraph.Text.Printable
import ModuleGraph.Text.Quoted
import ModuleGraph.Text.Range
import ModuleGraph.Workspace
import ModuleGraph.Workspace.Encode
import ModuleGraph.Proofs.Schedule.References
import ModuleGraph.Proofs.Session.Proposals
import ModuleGraph.Proofs.Session.DependencyEdits
import ModuleGraph.Proofs.Flow.Coherence
import ModuleGraph.Proofs.Session.Atomicity
import ModuleGraph.Proofs.Session.InverseEdits
import ModuleGraph.Proofs.Api.PostedBack
import ModuleGraph.Proofs.Flow.Stability
import ModuleGraph.Proofs.Schedule.NodeApart
import ModuleGraph.Proofs.Schedule.ConnectionCounts
import ModuleGraph.Proofs.NameImages
import ModuleGraph.Proofs.Source.Indentation
import ModuleGraph.Proofs.Catalog.WriteOnce
import ModuleGraph.Proofs.CommandLine.Following
import ModuleGraph.Proofs.CommandLine.Entries
import ModuleGraph.Proofs.CommandLine.OutputDirectory
import ModuleGraph.Proofs.CommandLine.AllOrNothing
import ModuleGraph.Proofs.CommandLine.Reporting
import ModuleGraph.Proofs.Workspace.Encodable
