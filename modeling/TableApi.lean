import TableApi.Api.Site
import TableApi.Calendar.Date
import TableApi.Command.Run
import TableApi.Config.Site
import TableApi.Entries
import TableApi.Filter.Translate
import TableApi.Json.Reader
import TableApi.Lifecycle.Clones
import TableApi.Main
import TableApi.Sql.Query
import TableApi.Store.Connection
import TableApi.Validation.RuleSet
import TableApi.Proofs.Entries
import TableApi.Proofs.Steps
import TableApi.Proofs.Sql.Runs
import TableApi.Proofs.Sql.Fields
import TableApi.Proofs.Store.Order
import TableApi.Proofs.Store.Walks
import TableApi.Proofs.Store.Paging
import TableApi.Proofs.Store.Selection
import TableApi.Proofs.Api.Listing
import TableApi.Proofs.Sql.Expression
import TableApi.Proofs.Sql.Tokens
import TableApi.Proofs.Sql.Items
import TableApi.Proofs.Sql.ReadBack
import TableApi.Proofs.Sql.Writes
import TableApi.Proofs.Store.Writing
import TableApi.Proofs.Store.Execution
import TableApi.Proofs.Api.Body
import TableApi.Proofs.Api.Effects
import TableApi.Proofs.Api.Keys
import TableApi.Proofs.Validation.Acceptance
import TableApi.Proofs.Api.Acceptance
import TableApi.Proofs.Filter.Allowed
import TableApi.Proofs.Api.Actions
import TableApi.Proofs.Api.Destinations
import TableApi.Proofs.Api.Guard
import TableApi.Proofs.Config.Mounting
import TableApi.Proofs.Api.Refusals
import TableApi.Proofs.Store.KeyMap
import TableApi.Proofs.Store.MapRuns
import TableApi.Proofs.Store.Hidden
import TableApi.Proofs.Api.Hidden
import TableApi.Proofs.Json.Quoted
import TableApi.Proofs.Net.Target
import TableApi.Proofs.Config.Query
import TableApi.Proofs.Api.Dates
import TableApi.Proofs.Filter.Names
import TableApi.Proofs.Filter.Effects
import TableApi.Proofs.Filter.Accounting
import TableApi.Proofs.Filter.Collection
import TableApi.Proofs.Filter.Spellings
import TableApi.Proofs.Config.AccessKey
import TableApi.Proofs.Filter.Dates
import TableApi.Proofs.Filter.Negation
import TableApi.Proofs.Lifecycle.History
import TableApi.Proofs.Lifecycle.Calls
import TableApi.Proofs.Store.Patterns
import TableApi.Proofs.Text.Cuts
import TableApi.Proofs.Text.Numerals
import TableApi.Proofs.Calendar.Days
import TableApi.Proofs.Number.Rounding
import TableApi.Proofs.Number.Nearest
import TableApi.Proofs.Calendar.RoundTrip
import TableApi.Proofs.Calendar.Order
import TableApi.Proofs.Text.Blanks
import TableApi.Proofs.Filter.Redating
import TableApi.Proofs.Number.Reading
import TableApi.Proofs.Number.Grammar
import TableApi.Proofs.Calendar.Accepted
import TableApi.Proofs.Json.Numbers
import TableApi.Proofs.Json.Values
import TableApi.Proofs.Json.Scanning
import TableApi.Proofs.Json.RoundTrip
import TableApi.Proofs.Validation.Bounds
import TableApi.Proofs.Validation.Errors
import TableApi.Proofs.Validation.Notation
import TableApi.Proofs.Store.Places
import TableApi.Proofs.Store.Reordering
import TableApi.Proofs.Api.BodyOrder
import TableApi.Proofs.Store.WellFormed
import TableApi.Proofs.Api.Confinement
import TableApi.Proofs.Store.Taken
import TableApi.Proofs.Api.ReadBack
