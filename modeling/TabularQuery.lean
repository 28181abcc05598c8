import TabularQuery.Backend
import TabularQuery.Batch
import TabularQuery.Command.Line
import TabularQuery.Command.Run
import TabularQuery.Descriptor.Args
import TabularQuery.Descriptor.Decode
import TabularQuery.Fields
import TabularQuery.Filter.Call
import TabularQuery.Filter.Constraint
import TabularQuery.Filter.Fault
import TabularQuery.Filter.Where
import TabularQuery.Json.Basic
import TabularQuery.Json.Printer
import TabularQuery.Json.Source
import TabularQuery.Log
import TabularQuery.LogFilter
import TabularQuery.Main
import TabularQuery.Number.Binary64
import TabularQuery.Number.Decimal
import TabularQuery.Number.Reading
import TabularQuery.Operation.Basic
import TabularQuery.Operation.Read
import TabularQuery.Operation.Reduction
import TabularQuery.Operation.Upsert
import TabularQuery.Operation.Write
import TabularQuery.Product
import TabularQuery.Proofs.Except
import TabularQuery.Proofs.Fields
import TabularQuery.Proofs.Filter.Clause
import TabularQuery.Proofs.Filter.KeyOrder
import TabularQuery.Proofs.Filter.Meaning
import TabularQuery.Proofs.Filter.Notation
import TabularQuery.Proofs.Json.KeyOrder
import TabularQuery.Proofs.Json.Reading
import TabularQuery.Proofs.Operation.Convergence
import TabularQuery.Proofs.Operation.FindMany
import TabularQuery.Proofs.Operation.FindUnique
import TabularQuery.Proofs.Operation.Search
import TabularQuery.Proofs.Operation.Upsert
import TabularQuery.Proofs.Operation.Write
import TabularQuery.Proofs.Session
import TabularQuery.Proofs.Store.Execution
import TabularQuery.Query.Basic
import TabularQuery.Query.Page
import TabularQuery.Query.Params
import TabularQuery.Query.Selection
import TabularQuery.Script
import TabularQuery.Service.Client
import TabularQuery.Service.Host
import TabularQuery.Service.Percent
import TabularQuery.Service.Punycode
import TabularQuery.Service.Reply
import TabularQuery.Service.Request
import TabularQuery.Service.Url
import TabularQuery.Session
import TabularQuery.Settings
import TabularQuery.Store.Basic
import TabularQuery.Store.Comparison
import TabularQuery.Store.Filtering
import TabularQuery.Store.Pattern
import TabularQuery.Store.Places
import TabularQuery.Table
import TabularQuery.Text.Blank
import TabularQuery.Text.Lower
import TabularQuery.Text.Quotation
import TabularQuery.Text.WordTable
import TabularQuery.Time.Calendar
import TabularQuery.Time.Instant
import TabularQuery.Time.Reading
import TabularQuery.Value.Basic
import TabularQuery.Value.Record
import TabularQuery.Proofs.Operation.Task
import TabularQuery.Proofs.Operation.Failure
import TabularQuery.Proofs.Operation.Effect
import TabularQuery.Proofs.Operation.Run
import TabularQuery.Proofs.Operation.Agreement
import TabularQuery.Proofs.Filter.Disjunction
import TabularQuery.Proofs.Query.Params
import TabularQuery.Proofs.Operation.Requests
import TabularQuery.Proofs.Operation.Pages
import TabularQuery.Proofs.Filter.Fallback
import TabularQuery.Proofs.Operation.Reach
import TabularQuery.Proofs.Operation.LongForm
import TabularQuery.Proofs.Operation.Insertion
import TabularQuery.Proofs.Operation.Batch
import TabularQuery.Proofs.Service.Fault
import TabularQuery.Proofs.Service.Replies
import TabularQuery.Proofs.Json.Grammar
import TabularQuery.Proofs.Json.Limits
import TabularQuery.Proofs.Time.Calendar
import TabularQuery.Proofs.Time.Text
import TabularQuery.Proofs.Value.Wire
import TabularQuery.Proofs.Operation.Creation
import TabularQuery.Proofs.Json.Printing
import TabularQuery.Proofs.Operation.Refinding
import TabularQuery.Proofs.Store.Pattern
import TabularQuery.Proofs.Text.Lower
import TabularQuery.Proofs.Filter.Substring
import TabularQuery.Proofs.Operation.Entries
import TabularQuery.Proofs.Number.Order
import TabularQuery.Proofs.Store.Comparison
import TabularQuery.Proofs.Store.Places
import TabularQuery.Proofs.Store.Sorting
import TabularQuery.Proofs.Store.Sorter
import TabularQuery.Proofs.Store.Equality
import TabularQuery.Proofs.Operation.FindFirst
import TabularQuery.Proofs.Operation.Ordering
import TabularQuery.Proofs.Operation.Branch
import TabularQuery.Proofs.Time.Reading
import TabularQuery.Proofs.Value.Rewritten
import TabularQuery.Proofs.Text.Order
import TabularQuery.Proofs.Time.Order
import TabularQuery.Proofs.Store.Chronology
import TabularQuery.Proofs.Value.Encoding
import TabularQuery.Proofs.Value.Narrowed
import TabularQuery.Proofs.Time.Tolerant
import TabularQuery.Proofs.Table
import TabularQuery.Proofs.Operation.Selection
import TabularQuery.Proofs.Filter.DescriptorForm
import TabularQuery.Proofs.Command.Grammar
import TabularQuery.Proofs.Text.Pieces
import TabularQuery.Proofs.Service.Percent
import TabularQuery.Proofs.Service.Path
import TabularQuery.Proofs.Service.Url
import TabularQuery.Proofs.Service.Place
