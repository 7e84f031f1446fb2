import DataAccess.Coercion
import DataAccess.CommandLine.Command
import DataAccess.CommandLine.Help
import DataAccess.CommandLine.Options
import DataAccess.CommandLine.Scan
import DataAccess.CommandLine.Values
import DataAccess.Config.Backend
import DataAccess.Config.File
import DataAccess.Config.Url
import DataAccess.Dialogue
import DataAccess.Dialogue.Recorded
import DataAccess.Document.Filter
import DataAccess.Document.Inference
import DataAccess.Document.Match
import DataAccess.Document.Memory
import DataAccess.Document.Script
import DataAccess.Document.Store
import DataAccess.Document.Value
import DataAccess.Engine.Basic
import DataAccess.Engine.Json
import DataAccess.Engine.Request
import DataAccess.Engine.Settings
import DataAccess.Error
import DataAccess.Json.Basic
import DataAccess.Json.Decode
import DataAccess.Json.Described
import DataAccess.Json.Numeral
import DataAccess.Json.Reader
import DataAccess.Json.Shown
import DataAccess.Json.Token
import DataAccess.Json.Writer
import DataAccess.Log
import DataAccess.Log.Filter
import DataAccess.Main
import DataAccess.Number.Binary64
import DataAccess.Number.Decimal
import DataAccess.Number.Power
import DataAccess.Number.Reader
import DataAccess.Output.Basic
import DataAccess.Output.Grid
import DataAccess.Output.Toon
import DataAccess.Permission
import DataAccess.Program
import DataAccess.Query.Find
import DataAccess.Query.Json
import DataAccess.Query.Page
import DataAccess.Query.Params
import DataAccess.Query.Predicate
import DataAccess.Query.Reading
import DataAccess.Query.Relations
import DataAccess.Rest.Formula
import DataAccess.Rest.Metadata
import DataAccess.Rest.Script
import DataAccess.Rest.Store
import DataAccess.Schema.Basic
import DataAccess.Schema.Column
import DataAccess.Schema.Json
import DataAccess.Sql.CatalogStatements
import DataAccess.Sql.ColumnTypes
import DataAccess.Sql.Definition
import DataAccess.Sql.Dialect
import DataAccess.Sql.Introspection
import DataAccess.Sql.Profile
import DataAccess.Sql.Script
import DataAccess.Sql.Select
import DataAccess.Sql.Statement
import DataAccess.Sql.Store
import DataAccess.Sql.Value
import DataAccess.Sql.Write
import DataAccess.Sqlite.Fresh
import DataAccess.Sqlite.Tables
import DataAccess.Sqlite.Value
import DataAccess.Store.Call
import DataAccess.Store.Catalog
import DataAccess.Store.Script
import DataAccess.Text.Base64
import DataAccess.Text.Blank
import DataAccess.Text.Case
import DataAccess.Text.Described
import DataAccess.Text.Folding
import DataAccess.Text.Hex
import DataAccess.Text.Like
import DataAccess.Text.Percent
import DataAccess.Text.Quoted
import DataAccess.Text.Regex
import DataAccess.Text.RegexReader
import DataAccess.Text.Split
import DataAccess.Text.Unprintable
import DataAccess.Text.Utf8
import DataAccess.Text.Word
import DataAccess.Time.Reader
import DataAccess.Time.Timestamp
import DataAccess.Proofs.Dialogue.Run
import DataAccess.Proofs.Dialogue.Transcript
import DataAccess.Proofs.Engine.Authorization
import DataAccess.Proofs.Dialogue.Simulation
import DataAccess.Proofs.Document.Filter
import DataAccess.Proofs.Document.Serve
import DataAccess.Proofs.Document.Memory
import DataAccess.Proofs.Document.Unlinked
import DataAccess.Proofs.Document.Inference
import DataAccess.Proofs.Document.RestrictedRead
import DataAccess.Proofs.Document.GuardedWrite
import DataAccess.Proofs.Document.RestrictedWrite
import DataAccess.Proofs.Document.Interleaving
import DataAccess.Proofs.Document.EqualityCondition
import DataAccess.Proofs.Document.Reads
import DataAccess.Proofs.Document.RowOrigin
import DataAccess.Proofs.Sql.Bindings
import DataAccess.Proofs.Sql.ReadBindings
import DataAccess.Proofs.Sql.Placeholders
import DataAccess.Proofs.Sql.ValueIndependence
import DataAccess.Proofs.Number.Digits
import DataAccess.Proofs.Text.Base64
import DataAccess.Proofs.Text.Blank
import DataAccess.Proofs.Query.Cursor
import DataAccess.Proofs.Time.Valid
import DataAccess.Proofs.Time.Written
import DataAccess.Proofs.Coercion.Outbound
import DataAccess.Proofs.Coercion.Idempotence
import DataAccess.Proofs.Engine.Pages
import DataAccess.Proofs.Document.Pages
import DataAccess.Proofs.Rest.Pages
import DataAccess.Proofs.Store.PageBounds
import DataAccess.Proofs.Document.Enumeration
import DataAccess.Proofs.Query.Reference
import DataAccess.Proofs.Query.JoinedRows
import DataAccess.Proofs.Document.Creation
import DataAccess.Proofs.Engine.Preparation
import DataAccess.Proofs.Sql.Catalog
import DataAccess.Proofs.Sql.SelectedNames
import DataAccess.Proofs.Sql.Scope
import DataAccess.Proofs.Sql.SortIndependence
import DataAccess.Proofs.Json.WellFormed
import DataAccess.Proofs.Json.Numeral
import DataAccess.Proofs.Json.Tokens
import DataAccess.Proofs.Json.Reread
import DataAccess.Proofs.Document.Complement
import DataAccess.Proofs.Document.SoftDeletion
import DataAccess.Proofs.Document.CreationOutcome
import DataAccess.Proofs.Coercion.JsonRoundTrip
import DataAccess.Proofs.Text.Pattern
import DataAccess.Proofs.Sql.Search
import DataAccess.Proofs.Text.LikeRegex
import DataAccess.Proofs.Rest.Truncation
import DataAccess.Proofs.Dialogue.Requests
import DataAccess.Proofs.Sql.ReadForm
import DataAccess.Proofs.Sql.RestrictedRead
import DataAccess.Proofs.Rest.Slice
import DataAccess.Proofs.Sql.CheckedRead
import DataAccess.Proofs.Dialogue.Blame
import DataAccess.Proofs.Sql.RefusedWrite
import DataAccess.Proofs.Store.Uniqueness
import DataAccess.Proofs.Engine.DottedReferences
import DataAccess.Proofs.Query.Expansion
import DataAccess.Proofs.Query.ToOne
import DataAccess.Proofs.Store.JoinColumns
import DataAccess.Proofs.Text.Quoted
import DataAccess.Proofs.Sql.Quoting
import DataAccess.Proofs.Sql.EnumMembers
import DataAccess.Proofs.Time.Calendar
import DataAccess.Proofs.Time.Instant
import DataAccess.Proofs.Time.Parts
import DataAccess.Proofs.Time.Spelling
import DataAccess.Proofs.Coercion.DateOrder
import DataAccess.Proofs.Rest.Membership
import DataAccess.Proofs.Text.Parentheses
import DataAccess.Proofs.Sql.Defaults
import DataAccess.Proofs.Sql.Lexemes
import DataAccess.Proofs.Sql.KeyClauses
import DataAccess.Proofs.Sql.CreatedKeys
import DataAccess.Proofs.Rest.FormulaReader
import DataAccess.Proofs.Rest.FormulaTexts
import DataAccess.Proofs.Query.PageLinks
import DataAccess.Proofs.Text.Case
import DataAccess.Proofs.Text.Split
import DataAccess.Proofs.Query.Written
import DataAccess.Proofs.Store.Introspected
import DataAccess.Proofs.Text.Utf8
import DataAccess.Proofs.Text.Hex
import DataAccess.Proofs.Text.Percent
import DataAccess.Proofs.Config.Url
import DataAccess.Proofs.Config.ConnectionString
import DataAccess.Proofs.Rest.FieldSelection
