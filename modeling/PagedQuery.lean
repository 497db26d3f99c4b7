import PagedQuery.Calendar.Date
import PagedQuery.Calendar.Text
import PagedQuery.Calendar.Timestamp
import PagedQuery.Catalog
import PagedQuery.Commerce.Product
import PagedQuery.Commerce.Store
import PagedQuery.Database.Basic
import PagedQuery.Database.Cell
import PagedQuery.Database.Edit
import PagedQuery.Database.Operation
import PagedQuery.Database.Seed
import PagedQuery.Database.Shared
import PagedQuery.Database.Statements
import PagedQuery.Database.Transaction
import PagedQuery.Decimal.Basic
import PagedQuery.Decimal.Layout
import PagedQuery.Decimal.Nearest
import PagedQuery.Decimal.Shortest
import PagedQuery.Decimal.Text
import PagedQuery.Entity
import PagedQuery.Error
import PagedQuery.Filter.Criteria
import PagedQuery.Filter.Predicate
import PagedQuery.Http.Respond
import PagedQuery.Http.Target
import PagedQuery.Json.Basic
import PagedQuery.Json.Document
import PagedQuery.Json.Reader
import PagedQuery.NameMap
import PagedQuery.Page
import PagedQuery.Params
import PagedQuery.Proofs.Agreement
import PagedQuery.Proofs.Blindness
import PagedQuery.Proofs.Calendar.RoundTrip
import PagedQuery.Proofs.Checking
import PagedQuery.Proofs.Commerce
import PagedQuery.Proofs.Database.Cell
import PagedQuery.Proofs.Database.Damage
import PagedQuery.Proofs.Database.Scan
import PagedQuery.Proofs.Decimal.Order
import PagedQuery.Proofs.Decimal.RoundTrip
import PagedQuery.Proofs.Entity
import PagedQuery.Proofs.Filtering
import PagedQuery.Proofs.Finding
import PagedQuery.Proofs.Json.Building
import PagedQuery.Proofs.Json.Lexing
import PagedQuery.Proofs.Json.Meaning
import PagedQuery.Proofs.Json.Numerals
import PagedQuery.Proofs.Json.RoundTrip
import PagedQuery.Proofs.Json.Strings
import PagedQuery.Proofs.LetterCase
import PagedQuery.Proofs.Lookup
import PagedQuery.Proofs.NameMap
import PagedQuery.Proofs.Navigation
import PagedQuery.Proofs.Nulls
import PagedQuery.Proofs.Numbers
import PagedQuery.Proofs.Outcome
import PagedQuery.Proofs.PageSizes
import PagedQuery.Proofs.Paging
import PagedQuery.Proofs.Params.Faults
import PagedQuery.Proofs.Params.Given
import PagedQuery.Proofs.Params.Language
import PagedQuery.Proofs.Params.Parameter
import PagedQuery.Proofs.Precedence
import PagedQuery.Proofs.Reading
import PagedQuery.Proofs.Record.Collection
import PagedQuery.Proofs.Record.Describing
import PagedQuery.Proofs.Record.History
import PagedQuery.Proofs.Record.Schema
import PagedQuery.Proofs.Refining
import PagedQuery.Proofs.Reordering
import PagedQuery.Proofs.Rephrasing
import PagedQuery.Proofs.Repository
import PagedQuery.Proofs.Search
import PagedQuery.Proofs.Service
import PagedQuery.Proofs.Settings.Loading
import PagedQuery.Proofs.Settings.Spelling
import PagedQuery.Proofs.Sorting
import PagedQuery.Proofs.Splitting
import PagedQuery.Proofs.Store.Basic
import PagedQuery.Proofs.Store.Browsing
import PagedQuery.Proofs.Store.Bulk
import PagedQuery.Proofs.Store.Calls
import PagedQuery.Proofs.Store.Growth
import PagedQuery.Proofs.Store.Refusal
import PagedQuery.Proofs.Store.Reloading
import PagedQuery.Proofs.Store.Run
import PagedQuery.Proofs.Store.SeedDocument
import PagedQuery.Proofs.Store.SeedEntity
import PagedQuery.Proofs.Store.Seeding
import PagedQuery.Proofs.Store.Sharing
import PagedQuery.Proofs.Store.Tables
import PagedQuery.Proofs.Store.Writing
import PagedQuery.Proofs.Survival
import PagedQuery.Proofs.Text.AsciiCase
import PagedQuery.Proofs.Text.Digits
import PagedQuery.Proofs.Text.Lowercase
import PagedQuery.Proofs.Typing
import PagedQuery.Proofs.Value.Order
import PagedQuery.Record.Basic
import PagedQuery.Record.Collection
import PagedQuery.Record.Id
import PagedQuery.Record.Schema
import PagedQuery.Record.Storage
import PagedQuery.Repository
import PagedQuery.Service
import PagedQuery.Settings.Basic
import PagedQuery.Settings.Key
import PagedQuery.Settings.Load
import PagedQuery.Settings.Toml.Document
import PagedQuery.Settings.Toml.Moment
import PagedQuery.Settings.Toml.Quoted
import PagedQuery.Settings.Toml.Scalar
import PagedQuery.Settings.Toml.Tables
import PagedQuery.Settings.Toml.Token
import PagedQuery.Settings.Value
import PagedQuery.Sort
import PagedQuery.Source
import PagedQuery.Text.Blank
import PagedQuery.Text.Hex
import PagedQuery.Text.Integer
import PagedQuery.Text.Lowercase
import PagedQuery.Text.Lowercase.Table
import PagedQuery.Text.Occurs
import PagedQuery.Text.Utf8
import PagedQuery.Value.Basic
import PagedQuery.Value.Json
import PagedQuery.Value.Kind
import PagedQuery.Value.Text
