import PgRole.Attempt
import PgRole.Bytes
import PgRole.Calendar.Date
import PgRole.Calendar.Pattern
import PgRole.Calendar.Time
import PgRole.CommandLine.Arguments
import PgRole.CommandLine.Folder
import PgRole.CommandLine.Pairs
import PgRole.CommandLine.Run
import PgRole.Connector.Basic
import PgRole.Connector.Command
import PgRole.Connector.Run
import PgRole.Connector.Script
import PgRole.Connector.Server
import PgRole.Credentials.DotEnv
import PgRole.Credentials.Format
import PgRole.Credentials.JsonForm
import PgRole.Credentials.Loading
import PgRole.Credentials.Profile
import PgRole.Credentials.Reference
import PgRole.Credentials.Variables
import PgRole.Credentials.YamlForm
import PgRole.Decimal.Arithmetic
import PgRole.Decimal.Basic
import PgRole.Decimal.Reader
import PgRole.Error
import PgRole.Float.Basic
import PgRole.Float.Literal
import PgRole.Float.Rounding
import PgRole.Float.Shortest
import PgRole.Interval
import PgRole.Json.Basic
import PgRole.Json.Document
import PgRole.Json.Number
import PgRole.Json.Printer
import PgRole.Json.Token
import PgRole.Keyed
import PgRole.Main
import PgRole.Postgres.Binary
import PgRole.Postgres.Cell
import PgRole.Postgres.Conversion
import PgRole.Postgres.Numeric
import PgRole.Postgres.Scalar
import PgRole.Postgres.Type
import PgRole.Power
import PgRole.Proofs.Calendar.Date
import PgRole.Proofs.Calendar.Item
import PgRole.Proofs.Calendar.Pattern
import PgRole.Proofs.Calendar.Readings
import PgRole.Proofs.Calendar.Shape
import PgRole.Proofs.CommandLine.Outcome
import PgRole.Proofs.CommandLine.Pairs
import PgRole.Proofs.CommandLine.Password
import PgRole.Proofs.Connector.Arguments
import PgRole.Proofs.Connector.Calls
import PgRole.Proofs.Connector.Course
import PgRole.Proofs.Connector.FirstRow
import PgRole.Proofs.Connector.Lifetime
import PgRole.Proofs.Connector.Log
import PgRole.Proofs.Connector.Password
import PgRole.Proofs.Connector.Rows
import PgRole.Proofs.Connector.Sequence
import PgRole.Proofs.Credentials.DotEnv
import PgRole.Proofs.Credentials.Fields
import PgRole.Proofs.Credentials.Loading
import PgRole.Proofs.Credentials.Password
import PgRole.Proofs.Credentials.PortText
import PgRole.Proofs.Credentials.Reference
import PgRole.Proofs.Credentials.Resolution
import PgRole.Proofs.Credentials.Segments
import PgRole.Proofs.Credentials.StoreReading
import PgRole.Proofs.Credentials.StoreText
import PgRole.Proofs.Decimal
import PgRole.Proofs.Except
import PgRole.Proofs.Float
import PgRole.Proofs.Float.Nearest
import PgRole.Proofs.Float.Value
import PgRole.Proofs.Interval
import PgRole.Proofs.Interval.Reading
import PgRole.Proofs.Json.Prefix
import PgRole.Proofs.Json.Text
import PgRole.Proofs.Json.Token
import PgRole.Proofs.Keyed
import PgRole.Proofs.Postgres.Cell
import PgRole.Proofs.Postgres.Documents
import PgRole.Proofs.Postgres.ErrorKind
import PgRole.Proofs.Postgres.IntegerRange
import PgRole.Proofs.Postgres.Integers
import PgRole.Proofs.Postgres.Lists
import PgRole.Proofs.Postgres.Panics
import PgRole.Proofs.Postgres.RoundTrip
import PgRole.Proofs.Postgres.Scalar
import PgRole.Proofs.Postgres.Untyped
import PgRole.Proofs.Sql.Exists
import PgRole.Proofs.Sql.FirstFault
import PgRole.Proofs.Sql.Formula
import PgRole.Proofs.Sql.References
import PgRole.Proofs.Sql.Renderable
import PgRole.Proofs.Sql.Rendering
import PgRole.Proofs.Sql.StatementTokens
import PgRole.Proofs.Sql.Template
import PgRole.Proofs.Sql.Token
import PgRole.Proofs.Sql.ValueIndependence
import PgRole.Proofs.Sql.Verbatim
import PgRole.Proofs.Statement.Form
import PgRole.Proofs.Text.ByteOrder
import PgRole.Proofs.Text.Digits
import PgRole.Proofs.Text.Span
import PgRole.Proofs.Uuid
import PgRole.Result
import PgRole.Sql.Bound
import PgRole.Sql.Exists
import PgRole.Sql.Placeholder
import PgRole.Sql.Render
import PgRole.Statement.Basic
import PgRole.Statement.Form
import PgRole.Statement.Word
import PgRole.Text.Alphanumeric
import PgRole.Text.Blank
import PgRole.Text.Case
import PgRole.Text.CharSet
import PgRole.Text.Digits
import PgRole.Text.Printable
import PgRole.Text.Quoted
import PgRole.Text.WordChar
import PgRole.Uuid
import PgRole.Yaml.Cursor
import PgRole.Yaml.Node
import PgRole.Yaml.Scalar
import PgRole.Yaml.Schema
import PgRole.Yaml.Tag
import PgRole.Yaml.Token
