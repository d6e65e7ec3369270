import Backlog.Record
import Backlog.Text.Blank
import Backlog.Text.Quoted
import Backlog.Number.Shortest
import Backlog.Number.Fixed
import Backlog.Number.Decimal
import Backlog.Json.Decoder
import Backlog.Calendar.Reader
import Backlog.Calendar.Printer
import Backlog.Uuid
import Backlog.Url.Address
import Backlog.Field.Definition
import Backlog.ItemType
import Backlog.Identity
import Backlog.Iteration
import Backlog.Filter.Encoding
import Backlog.Filter.Predicate
import Backlog.Timing
import Backlog.Config
import Backlog.Store.Schema
import Backlog.Builtin
import Backlog.Store.Operation
import Backlog.Store.Overwrite
import Backlog.Store.Script
import Backlog.Command.Reader
import Backlog.Command.Output
import Backlog.Command.Run
import Backlog.Workspace
import Backlog.Store.Encoding
import Backlog.Main
import Backlog.Proofs.Calendar.Numbering
import Backlog.Proofs.Calendar.Text
import Backlog.Proofs.Field.RoundTrip
import Backlog.Proofs.Field.Shape
import Backlog.Proofs.Store.Action
import Backlog.Proofs.Store.Types
import Backlog.Proofs.Store.Change
import Backlog.Proofs.Store.Started
import Backlog.Proofs.Store.Versions
import Backlog.Proofs.Json.Numbers
import Backlog.Proofs.Json.Strings
import Backlog.Proofs.Json.Floats
import Backlog.Proofs.Json.RoundTrip
import Backlog.Proofs.Field.Values
import Backlog.Proofs.Field.Stored
import Backlog.Proofs.Json.WellRead
import Backlog.Proofs.Field.ReadBack
import Backlog.Proofs.Store.Readable
import Backlog.Proofs.Field.Choices
import Backlog.Proofs.Field.Schema
import Backlog.Proofs.Store.Registry
import Backlog.Proofs.Store.Resave
import Backlog.Proofs.Sql.Token
import Backlog.Proofs.Sql.Expression
import Backlog.Proofs.Sql.Predicate
import Backlog.Proofs.Filter.Compile
import Backlog.Proofs.Filter.Meaning
import Backlog.Proofs.Filter.Decision
import Backlog.Proofs.Filter.Shape
import Backlog.Proofs.Sql.Condition
import Backlog.Proofs.Store.Lists
import Backlog.Proofs.Page.Links
import Backlog.Proofs.Page.Walk
import Backlog.Proofs.Store.Paging
import Backlog.Proofs.Store.Failures
import Backlog.Proofs.Uuid
import Backlog.Proofs.Field.Depth
import Backlog.Proofs.Store.Internal
import Backlog.Proofs.Store.Written
import Backlog.Proofs.Store.Causes
import Backlog.Proofs.Store.ItemCauses
import Backlog.Proofs.Store.Faults
import Backlog.Proofs.Store.IterationsReadBack
import Backlog.Proofs.Store.ItemsReadBack
import Backlog.Proofs.Store.Complement
import Backlog.Proofs.Store.Counts
import Backlog.Proofs.Store.Deletion
import Backlog.Proofs.Field.Same
import Backlog.Proofs.Store.Registrations
import Backlog.Proofs.Store.Nesting
import Backlog.Proofs.Store.Inheritance
import Backlog.Proofs.Command.Outcome
import Backlog.Proofs.Command.Lines
import Backlog.Proofs.Page.Width
import Backlog.Proofs.Page.FirstLink
import Backlog.Proofs.Page.Cap
import Backlog.Proofs.Number.Rounding
import Backlog.Proofs.Sql.Marks
import Backlog.Proofs.Filter.Tests
import Backlog.Proofs.Filter.Encoding
import Backlog.Proofs.Filter.Simple
import Backlog.Proofs.Store.Matches
import Backlog.Proofs.Store.Seeding
import Backlog.Proofs.Store.Starting
import Backlog.Proofs.Field.Replaced
import Backlog.Proofs.Store.Assignment
import Backlog.Proofs.Field.Refusal
import Backlog.Proofs.Field.Enumeration
import Backlog.Proofs.Field.Lists
import Backlog.Proofs.Json.Layout
import Backlog.Proofs.Field.Grammar
import Backlog.Proofs.Command.Fields
import Backlog.Proofs.Command.Update
import Backlog.Proofs.Command.Interleaved
import Backlog.Proofs.Timing
