import TableQuery.Address.Basic
import TableQuery.Binary64.Basic
import TableQuery.Calendar.RuleTable
import TableQuery.Calendar.WallClock
import TableQuery.Calendar.Zone
import TableQuery.Calendar.ZoneReader
import TableQuery.Calendar.ZoneTable
import TableQuery.ColumnSpec.Basic
import TableQuery.ColumnSpec.Reader
import TableQuery.Command.Basic
import TableQuery.Command.Error
import TableQuery.Command.Plan
import TableQuery.Command.Reader
import TableQuery.Command.Run
import TableQuery.Command.Words
import TableQuery.Config.Basic
import TableQuery.Config.EnvFile
import TableQuery.Config.File
import TableQuery.Config.Reader
import TableQuery.Database.Error
import TableQuery.Database.Operations
import TableQuery.Database.Pool
import TableQuery.Decimal.Basic
import TableQuery.Decimal.Shortest
import TableQuery.Execution.Engine
import TableQuery.Execution.Session
import TableQuery.Filter.Basic
import TableQuery.Filter.Expression
import TableQuery.Filter.Parameters
import TableQuery.InputError
import TableQuery.Json.Basic
import TableQuery.Json.Document
import TableQuery.Json.Printer
import TableQuery.Main
import TableQuery.Proofs.Binary64.Finite
import TableQuery.Proofs.Checks
import TableQuery.Proofs.ColumnSpec.Grammar
import TableQuery.Proofs.ColumnSpec.OutputNames
import TableQuery.Proofs.ColumnSpec.PlainColumns
import TableQuery.Proofs.ColumnSpec.Reader
import TableQuery.Proofs.ColumnSpec.Selection
import TableQuery.Proofs.Command.BoundData
import TableQuery.Proofs.Command.Deletion
import TableQuery.Proofs.Config.Loading
import TableQuery.Proofs.Database.ConcurrentInsert
import TableQuery.Proofs.Database.InputErrors
import TableQuery.Proofs.Database.Insert
import TableQuery.Proofs.Database.Remembering
import TableQuery.Proofs.Decimal.Digits
import TableQuery.Proofs.Execution.Attempts
import TableQuery.Proofs.Execution.Engine
import TableQuery.Proofs.Execution.Events
import TableQuery.Proofs.Execution.Interleaving
import TableQuery.Proofs.Execution.Recording
import TableQuery.Proofs.Fields
import TableQuery.Proofs.Filter.Acceptance
import TableQuery.Proofs.Filter.Expression
import TableQuery.Proofs.Filter.Meaning
import TableQuery.Proofs.Filter.Negation
import TableQuery.Proofs.Filter.Reading
import TableQuery.Proofs.Filter.Written
import TableQuery.Proofs.Json.WellFormed
import TableQuery.Proofs.Names
import TableQuery.Proofs.Results.Normalization
import TableQuery.Proofs.Results.Nulls
import TableQuery.Proofs.Schema.CatalogRows
import TableQuery.Proofs.Schema.Coherence
import TableQuery.Proofs.Schema.Lookup
import TableQuery.Proofs.Schema.Questions
import TableQuery.Proofs.Schema.RecordedCasts
import TableQuery.Proofs.Schema.Sharing
import TableQuery.Proofs.Schema.Twins
import TableQuery.Proofs.Schema.WrittenTypes
import TableQuery.Proofs.Sql.Casts
import TableQuery.Proofs.Sql.Numbering
import TableQuery.Proofs.Sql.Placeholder
import TableQuery.Proofs.Sql.Predicate
import TableQuery.Proofs.Sql.Query
import TableQuery.Proofs.Sql.Quoting
import TableQuery.Proofs.Sql.Token
import TableQuery.Proofs.Statement.Alike
import TableQuery.Proofs.Statement.Assignment
import TableQuery.Proofs.Statement.Binding
import TableQuery.Proofs.Statement.Casts
import TableQuery.Proofs.Statement.Catalog
import TableQuery.Proofs.Statement.JoinChain
import TableQuery.Proofs.Statement.Parts
import TableQuery.Proofs.Statement.PlaceholderCount
import TableQuery.Proofs.Statement.PlaceholderScan
import TableQuery.Proofs.Statement.Qualified
import TableQuery.Proofs.Statement.Read
import TableQuery.Proofs.Statement.Request
import TableQuery.Proofs.Statement.Safety
import TableQuery.Proofs.Statement.Stamp
import TableQuery.Proofs.Statement.Untyped
import TableQuery.Proofs.Statement.Verdict
import TableQuery.Proofs.Statement.Write
import TableQuery.Proofs.Text.Blank
import TableQuery.Proofs.Text.Bytes
import TableQuery.Proofs.Text.Cut
import TableQuery.Proofs.Wire.IntervalReader
import TableQuery.Proofs.Wire.IntervalStyle
import TableQuery.Proofs.Wire.WrittenTime
import TableQuery.QueryOptions.Reader
import TableQuery.ResultSet
import TableQuery.Script.Basic
import TableQuery.Sql
import TableQuery.Statement.Catalog
import TableQuery.Statement.Read
import TableQuery.Statement.Write
import TableQuery.TableInfo
import TableQuery.Text.Alphanumeric
import TableQuery.Text.Basic
import TableQuery.Text.Uppercase
import TableQuery.Toml.Basic
import TableQuery.Toml.Reader
import TableQuery.Toml.Scalar
import TableQuery.Toml.Text
import TableQuery.Value
import TableQuery.Wire.Cell
import TableQuery.Wire.Numeric
import TableQuery.Wire.Parameter
