import NetAdmin.Address.Basic
import NetAdmin.Address.Literal
import NetAdmin.Bits
import NetAdmin.Command.Basic
import NetAdmin.Command.Installed
import NetAdmin.Command.Scripted
import NetAdmin.Error
import NetAdmin.Exclusion
import NetAdmin.Files.Memory
import NetAdmin.Files.Place
import NetAdmin.Files.Snapshot
import NetAdmin.Files.Store
import NetAdmin.Files.Tree
import NetAdmin.Files.View
import NetAdmin.Interface.Discovery
import NetAdmin.Interface.FunctionListing
import NetAdmin.Invocation.Commands
import NetAdmin.Invocation.Program
import NetAdmin.Invocation.Reading
import NetAdmin.Invocation.Request
import NetAdmin.Invocation.Usage
import NetAdmin.Json.Basic
import NetAdmin.Json.Decode
import NetAdmin.Json.Reader
import NetAdmin.Json.Writer
import NetAdmin.Link.Details
import NetAdmin.Link.Listing
import NetAdmin.Link.Record
import NetAdmin.Main
import NetAdmin.Path
import NetAdmin.Proofs.Address.Literal
import NetAdmin.Proofs.Address.Network
import NetAdmin.Proofs.Command.Dialogue
import NetAdmin.Proofs.Computation
import NetAdmin.Proofs.Exclusion.Confinement
import NetAdmin.Proofs.Exclusion.FileName
import NetAdmin.Proofs.Exclusion.Lifecycle
import NetAdmin.Proofs.Files.Directories
import NetAdmin.Proofs.Files.Entries
import NetAdmin.Proofs.Files.Laws
import NetAdmin.Proofs.Files.Nodes
import NetAdmin.Proofs.Files.Replacement
import NetAdmin.Proofs.Files.Rollback
import NetAdmin.Proofs.Files.TreeStore
import NetAdmin.Proofs.Files.Walk
import NetAdmin.Proofs.Interface.Enumeration
import NetAdmin.Proofs.Interface.FunctionListing
import NetAdmin.Proofs.Interface.ListingOrder
import NetAdmin.Proofs.Interface.Reported
import NetAdmin.Proofs.Interface.Shown
import NetAdmin.Proofs.Json.Extent
import NetAdmin.Proofs.Link.FirstAddress
import NetAdmin.Proofs.Link.Listing
import NetAdmin.Proofs.Registry.Atomicity
import NetAdmin.Proofs.Registry.FinalNewline
import NetAdmin.Proofs.Registry.InTree
import NetAdmin.Proofs.Registry.Integrity
import NetAdmin.Proofs.Registry.LineFilter
import NetAdmin.Proofs.Registry.Lines
import NetAdmin.Proofs.Registry.Originals
import NetAdmin.Proofs.Registry.Refinement
import NetAdmin.Proofs.Registry.Rendering
import NetAdmin.Proofs.Registry.Reversal
import NetAdmin.Proofs.Registry.Run
import NetAdmin.Proofs.Route.Clearance
import NetAdmin.Proofs.Route.Deletion
import NetAdmin.Proofs.Route.DeviceRoutes
import NetAdmin.Proofs.Route.PolicyRules
import NetAdmin.Proofs.Route.Record
import NetAdmin.Proofs.Route.Replay
import NetAdmin.Proofs.Route.RuleLine
import NetAdmin.Proofs.Route.Script
import NetAdmin.Proofs.SortedTable
import NetAdmin.Proofs.Text.Lines
import NetAdmin.Proofs.Text.Listing
import NetAdmin.Proofs.Text.Numeral
import NetAdmin.Proofs.Text.Utf8
import NetAdmin.Proofs.Topology.Agreement
import NetAdmin.Proofs.Topology.Consistency
import NetAdmin.Proofs.Topology.Isolation
import NetAdmin.Proofs.Topology.Survey
import NetAdmin.Registry.Edit
import NetAdmin.Registry.Entry
import NetAdmin.Report.Document
import NetAdmin.Report.Table
import NetAdmin.Route.Change
import NetAdmin.Route.Flush
import NetAdmin.Route.Listing
import NetAdmin.Settings
import NetAdmin.SortedTable
import NetAdmin.Text.Basic
import NetAdmin.Text.Blank
import NetAdmin.Text.CaseMap
import NetAdmin.Text.Columns
import NetAdmin.Text.Columns.Behind
import NetAdmin.Text.Columns.Letter
import NetAdmin.Text.Columns.Pictograph
import NetAdmin.Text.Columns.Single
import NetAdmin.Text.Decimal
import NetAdmin.Text.Grid
import NetAdmin.Text.LowerCase
import NetAdmin.Text.Printable
import NetAdmin.Text.Quoted
import NetAdmin.Text.Ranges
import NetAdmin.Text.UpperCase
import NetAdmin.Text.Utf8
import NetAdmin.Topology
