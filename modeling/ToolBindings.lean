import ToolBindings.Binding.Toolset
import ToolBindings.Main
import ToolBindings.Manifest.Timestamp
import ToolBindings.Proofs.Text.Digits
import ToolBindings.Proofs.Decimal.Rounding
import ToolBindings.Proofs.Text.Scan
import ToolBindings.Proofs.Decimal.Layout
import ToolBindings.Proofs.Data.Entries
import ToolBindings.Proofs.Data.Numerals
import ToolBindings.Proofs.Data.Tokens
import ToolBindings.Proofs.Literal.Quoted
import ToolBindings.Proofs.Literal.Reading
import ToolBindings.Proofs.Text.Printable
import ToolBindings.Proofs.Literal.Closed
import ToolBindings.Proofs.Json.Quoted
import ToolBindings.Proofs.Json.Reading
import ToolBindings.Proofs.Text.Utf8
import ToolBindings.Proofs.Data.Sorted
import ToolBindings.Proofs.Data.Reordered
import ToolBindings.Proofs.Server.Selection
import ToolBindings.Proofs.FileTree.Reading
import ToolBindings.Proofs.Command.Loading
import ToolBindings.Proofs.Manifest.ReadBack
import ToolBindings.Proofs.Manifest.FromReply
import ToolBindings.Proofs.Manifest.Canonical
import ToolBindings.Proofs.Command.Replay
import ToolBindings.Proofs.Schema.Reading
import ToolBindings.Proofs.Schema.Projection
import ToolBindings.Proofs.Schema.Compiled
import ToolBindings.Proofs.Schema.Idempotent
import ToolBindings.Proofs.Schema.Finite
import ToolBindings.Proofs.Name.Identifier
import ToolBindings.Proofs.Source.ToolModule
import ToolBindings.Proofs.FileTree.Walking
import ToolBindings.Proofs.FileTree.Making
import ToolBindings.Proofs.FileTree.Writing
import ToolBindings.Proofs.FileTree.Plain
import ToolBindings.Proofs.FileTree.Changes
import ToolBindings.Proofs.Name.Allocation
import ToolBindings.Proofs.Name.Search
import ToolBindings.Proofs.Name.Suffixed
import ToolBindings.Proofs.Name.Grouping
import ToolBindings.Proofs.Binding.Import
import ToolBindings.Proofs.Binding.Table
import ToolBindings.Proofs.Command.Generating
import ToolBindings.Proofs.Command.Changes
import ToolBindings.Proofs.Command.Imported
import ToolBindings.Proofs.Command.LoadBack
import ToolBindings.Proofs.Command.Partial
import ToolBindings.Proofs.Command.Outputs
import ToolBindings.Proofs.Command.Package
import ToolBindings.Proofs.Command.Pass
import ToolBindings.Proofs.Command.Selected
import ToolBindings.Proofs.Rpc.Connection
import ToolBindings.Proofs.Server.Retry
import ToolBindings.Proofs.Server.RetryTrace
import ToolBindings.Proofs.Rpc.Calls
import ToolBindings.Proofs.Server.Resolution
import ToolBindings.Proofs.Binding.Handling
import ToolBindings.Proofs.FileTree.Errors
import ToolBindings.Proofs.Server.Listing
import ToolBindings.Proofs.Command.Visits
import ToolBindings.Proofs.Command.Survival
import ToolBindings.Proofs.Command.Discovering
import ToolBindings.Proofs.FileTree.Stations
import ToolBindings.Proofs.FileTree.Writable
import ToolBindings.Proofs.Command.Isolation
import ToolBindings.Proofs.Command.DryRun
import ToolBindings.Proofs.FileTree.Removing
import ToolBindings.Proofs.Command.Rehearsal
import ToolBindings.Proofs.Command.Unforetold
import ToolBindings.Proofs.Command.Evaluated
import ToolBindings.Proofs.Command.Strict
import ToolBindings.Proofs.Command.Collision
import ToolBindings.Proofs.Command.Aborted
import ToolBindings.Proofs.Command.Truncation
import ToolBindings.Proofs.FileTree.Gone
import ToolBindings.Proofs.Command.Pruning
import ToolBindings.Proofs.FileTree.Rereading
import ToolBindings.Proofs.Command.Current
import ToolBindings.Proofs.FileTree.Alike
import ToolBindings.Proofs.FileTree.Clearing
import ToolBindings.Proofs.Command.Cleaning
import ToolBindings.Proofs.Command.CleanSlate
import ToolBindings.Proofs.Binding.Allowlist
import ToolBindings.Proofs.Binding.Choice
import ToolBindings.Proofs.Data.Merge
import ToolBindings.Proofs.Config.Placeholder
import ToolBindings.Proofs.Config.Nearest
import ToolBindings.Proofs.Config.Reported
import ToolBindings.Proofs.FileTree.AllOrNothing
import ToolBindings.Proofs.Console.Marks
import ToolBindings.Proofs.Console.Layout
import ToolBindings.Proofs.Console.Markup
import ToolBindings.Proofs.Console.Style
import ToolBindings.Proofs.Console.Printer
import ToolBindings.Proofs.CommandLine.ConfigurationErrors
import ToolBindings.Proofs.Binding.History
import ToolBindings.Proofs.Manifest.Calendar
import ToolBindings.Proofs.Manifest.Timestamp
