import RowMapper.Calendar.Date
import RowMapper.Calendar.DateTime
import RowMapper.Calendar.Reading
import RowMapper.Config
import RowMapper.Engine.Backend
import RowMapper.Engine.Basic
import RowMapper.Engine.Connection
import RowMapper.Engine.Pool
import RowMapper.Engine.Scripted
import RowMapper.Entity.Basic
import RowMapper.Entity.FieldKind
import RowMapper.Error
import RowMapper.Json.Basic
import RowMapper.Json.Printer
import RowMapper.Json.Reader
import RowMapper.Json.Token
import RowMapper.Number.Binary64
import RowMapper.Number.Integer
import RowMapper.Number.Layout
import RowMapper.Number.Nearest
import RowMapper.Number.Numeral
import RowMapper.Number.Power
import RowMapper.Number.Shortest
import RowMapper.Proofs.Calendar.Forms
import RowMapper.Proofs.Calendar.Reading
import RowMapper.Proofs.Engine.Lifecycle
import RowMapper.Proofs.Engine.Sending
import RowMapper.Proofs.Engine.Trace
import RowMapper.Proofs.Json.RoundTrip
import RowMapper.Proofs.Json.Token
import RowMapper.Proofs.Number.Integer
import RowMapper.Proofs.Number.Interval
import RowMapper.Proofs.Number.Layout
import RowMapper.Proofs.Number.Shortest
import RowMapper.Proofs.Record.Accessors
import RowMapper.Proofs.Record.Hydrate
import RowMapper.Proofs.Record.Loading
import RowMapper.Proofs.Record.Mapping
import RowMapper.Proofs.Record.RelationText
import RowMapper.Proofs.Repository.Addressed
import RowMapper.Proofs.Repository.Allowed
import RowMapper.Proofs.Repository.Changes
import RowMapper.Proofs.Repository.Clients
import RowMapper.Proofs.Repository.Defaults
import RowMapper.Proofs.Repository.Difference
import RowMapper.Proofs.Repository.Document
import RowMapper.Proofs.Repository.Finding
import RowMapper.Proofs.Repository.Frame
import RowMapper.Proofs.Repository.Loaded
import RowMapper.Proofs.Repository.Messages
import RowMapper.Proofs.Repository.Paging
import RowMapper.Proofs.Repository.Pipeline
import RowMapper.Proofs.Repository.Related
import RowMapper.Proofs.Repository.RoundTrip
import RowMapper.Proofs.Repository.Run
import RowMapper.Proofs.Repository.Store
import RowMapper.Proofs.Repository.StoredRow
import RowMapper.Proofs.Repository.Texts
import RowMapper.Proofs.Repository.Timestamps
import RowMapper.Proofs.Repository.UpdateText
import RowMapper.Proofs.Repository.Validation
import RowMapper.Proofs.Sql.Alike
import RowMapper.Proofs.Sql.Assignment
import RowMapper.Proofs.Sql.CallLanguage
import RowMapper.Proofs.Sql.Chaining
import RowMapper.Proofs.Sql.ColumnOrder
import RowMapper.Proofs.Sql.Conditions
import RowMapper.Proofs.Sql.Escape
import RowMapper.Proofs.Sql.FunctionCall
import RowMapper.Proofs.Sql.Insertion
import RowMapper.Proofs.Sql.Literal
import RowMapper.Proofs.Sql.Meaning
import RowMapper.Proofs.Sql.NameList
import RowMapper.Proofs.Sql.Narrowing
import RowMapper.Proofs.Sql.Paging
import RowMapper.Proofs.Sql.Precedence
import RowMapper.Proofs.Sql.Qualified
import RowMapper.Proofs.Sql.Rendering
import RowMapper.Proofs.Sql.Shape
import RowMapper.Proofs.Sql.Slots
import RowMapper.Proofs.Sql.Spelling
import RowMapper.Proofs.Sql.Steps
import RowMapper.Proofs.Sql.Token
import RowMapper.Proofs.Text.Blank
import RowMapper.Proofs.Text.Join
import RowMapper.Proofs.Text.Occurrence
import RowMapper.Record.Basic
import RowMapper.Record.Relation
import RowMapper.Repository.Basic
import RowMapper.Repository.Errors
import RowMapper.Repository.Find
import RowMapper.Repository.Rules
import RowMapper.Row
import RowMapper.SortedMap
import RowMapper.Sql.Change
import RowMapper.Sql.Filter
import RowMapper.Sql.FunctionCall
import RowMapper.Sql.Identifier
import RowMapper.Sql.Literal
import RowMapper.Sql.Operator
import RowMapper.Sql.Predicate
import RowMapper.Sql.Select
import RowMapper.Sql.Statement
import RowMapper.Sqlite.Database
import RowMapper.Sqlite.Storage
import RowMapper.Sqlite.Table
import RowMapper.Text.Blank
import RowMapper.Text.Case
import RowMapper.Text.CaseTable
import RowMapper.Text.CasedTable
import RowMapper.Text.Hex
import RowMapper.Text.Join
import RowMapper.Text.Utf8
import RowMapper.Value
import RowMapper.Proofs.Number.Integral
import RowMapper.Proofs.Entity.Timestamp
import RowMapper.Proofs.Entity.Coercion
