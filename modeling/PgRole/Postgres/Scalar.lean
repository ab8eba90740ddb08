import PgRole.Bytes
import PgRole.Calendar.Time
import PgRole.Decimal.Basic
import PgRole.Json.Printer
import PgRole.Uuid

/-!
# Scalars

The types whose values have a form of their own here, with the values of each. A value is shown as
JSON by `Scalar.toJson`: numbers as numbers, truth values as such, all else as text; a float that
JSON has no number for is null.
-/

namespace PgRole.Postgres

/-- A type whose values have a form of their own. -/
inductive Scalar where
  | bool
  | int2
  | int4
  | int8
  | float4
  | float8
  | numeric
  | text
  | uuid
  | date
  | time
  | timestamp
  | timestamptz
  deriving DecidableEq, Repr

namespace Scalar

/-- The values of a type. -/
abbrev Value : Scalar → Type
  | bool => Bool
  | int2 => Int16
  | int4 => Int32
  | int8 => Int64
  | float4 => Binary32
  | float8 => Binary64
  | numeric => Decimal
  | text => String
  | uuid => Uuid
  | date => Calendar.Date
  | time => Calendar.Time
  | timestamp => Calendar.Moment
  | timestamptz => Calendar.Moment

/-- The number of the type among the server's types, as the element of a list. -/
def oid : Scalar → Nat
  | bool => 16
  | int2 => 21
  | int4 => 23
  | int8 => 20
  | float4 => 700
  | float8 => 701
  | numeric => 1700
  | text => 25
  | uuid => 2950
  | date => 1082
  | time => 1083
  | timestamp => 1114
  | timestamptz => 1184

/-- The type of a name when a value is sent. -/
def ofName? : String → Option Scalar
  | "BOOL" => some bool
  | "INT2" => some int2
  | "INT4" => some int4
  | "INT8" => some int8
  | "FLOAT4" => some float4
  | "FLOAT8" => some float8
  | "NUMERIC" => some numeric
  | "TEXT" | "VARCHAR" | "BPCHAR" | "NAME" | "UNKNOWN" => some text
  | "UUID" => some uuid
  | "DATE" => some date
  | "TIME" => some time
  | "TIMESTAMP" => some timestamp
  | "TIMESTAMPTZ" => some timestamptz
  | _ => none

/-- The type of a name where it names the elements of a list. -/
def ofElementName? : String → Option Scalar
  | "TIME" | "UNKNOWN" => none
  | name => ofName? name

/-- An integer as JSON, null beyond what JSON holds exactly. -/
def integer (i : Int) : Json := ((Json.Number.ofInt? i).map Json.num).getD .null

/-- A float as JSON, null if it is not finite. -/
def float (x : Binary64) : Json := ((Json.Number.ofFloat? x).map Json.num).getD .null

/-- A value as JSON. -/
def toJson : (s : Scalar) → s.Value → Json
  | bool, b => .bool b
  | int2, i => integer i.toInt
  | int4, i => integer i.toInt
  | int8, i => integer i.toInt
  | float4, x => float (x.convert .double)
  | float8, x => float x
  | numeric, d => .str d.text
  | text, s => .str s
  | uuid, u => .str u.text
  | date, d => .str d.text
  | time, t => .str t.text
  | timestamp, m => .str m.text
  | timestamptz, m => .str m.instantText

end Scalar

end PgRole.Postgres
