import PgRole.Postgres.Binary
import PgRole.Result

/-!
# Cells of rows

`Cell.toJson` shows a cell of a row as JSON, by the type of its column. A type is known by its name;
an enumeration is a text, and a domain is what its base is. A type without a form here fails
whatever the cell holds; otherwise SQL's null is null. A row shows if all its cells do; otherwise
the leftmost cell that does not decides what comes of the row, an error that names the column or a
panic.
-/

namespace PgRole.Postgres

open Attempt

/-- The forms in which a cell is read. -/
inductive CellForm where
  | scalar (s : Scalar)
  | oid
  | letter
  | money
  | octets
  | timetz
  | interval
  | json
  | void
  | list (s : Scalar)
  | jsonList
  deriving DecidableEq, Repr

namespace CellForm

/-- The form of a type that is not a list, by its name. -/
def single? (name : String) : Option CellForm :=
  match name with
  | "OID" => some .oid
  | "\"CHAR\"" => some .letter
  | "MONEY" => some .money
  | "CITEXT" | "XML" => some (.scalar .text)
  | "BYTEA" => some .octets
  | "TIMETZ" => some .timetz
  | "INTERVAL" => some .interval
  | "JSON" | "JSONB" => some .json
  | "VOID" => some .void
  | name => (Scalar.ofName? name).map .scalar

/-- The form of a type by its name. -/
def ofName? (name : String) : Option CellForm :=
  match elementName? name with
  | some "JSON" | some "JSONB" => some .jsonList
  | some element => (Scalar.ofElementName? element).map .list
  | none => single? name

/-- The form of a type. -/
def ofType? : SqlType → Option CellForm
  | .plain name => ofName? name
  | .enumeration name => if name = "?" then none else (ofName? name).or (some (.scalar .text))
  | .domain name base => if name = "?" then none else (ofName? name).or (ofType? base)

/-- The name of the type that has no form: the innermost base of domains. -/
def unsupportedName : SqlType → String
  | .plain name => name
  | .enumeration name => name
  | .domain name base => if name = "?" then name else unsupportedName base

end CellForm

namespace Cell

/-- The JSON value of a text. -/
def document (bs : Bytes) : Reading Json := orRefuse ((Bytes.text? bs).bind Json.ofText?)

/-- The JSON value of a text, after the version octet if there has to be one. Another version is a
panic. -/
def json (versioned : Bool) (bs : Bytes) : Reading Json :=
  if versioned then
    match bs with
    | 1 :: r => document r
    | _ => .error .panic
  else document bs

/-- The number of the versioned JSON type among the server's types. -/
def versionedOid : Nat := 3802

/-- Octets in hexadecimal digits. -/
def hexText (bs : Bytes) : String := String.ofList ('\\' :: 'x' :: Bytes.toHex bs)

/-- The text of an amount in hundredths. -/
def moneyText? (bs : Bytes) : Option String :=
  (Scalar.int? 8 bs).bind fun i =>
    (Decimal.unsignedZero? (decide (i < 0)) i.natAbs 2).map Decimal.text

/-- The text of a time with an offset. -/
def timetzText? (bs : Bytes) : Option String := do
  let (micros, bs) ← Bytes.takeInt? 8 bs
  let (west, _) ← Bytes.takeInt? 4 bs
  let o ← Calendar.Offset.ofEast? (-west)
  pure (String.ofList ((Calendar.Time.ofMicros micros).chars ++ o.chars))

/-- The interval of octets. -/
def interval? (bs : Bytes) : Option Interval := do
  let (micros, bs) ← Bytes.takeInt? 8 bs
  let (days, bs) ← Bytes.takeInt? 4 bs
  let (months, _) ← Bytes.takeInt? 4 bs
  pure ⟨Int32.ofInt months, Int32.ofInt days, Int64.ofInt micros⟩

/-- Elements as JSON, null for none. -/
def listJson {α : Type} (show? : α → Json) (items : List (Option α)) : Json :=
  .arr (items.map fun v => (v.map show?).getD .null)

/-- The JSON value of a cell that is not null, in a column of a type, by the form of the cell. -/
def decode (column : SqlType) (bs : Bytes) : CellForm → Reading Json
  | .scalar s => (s.decode bs).map s.toJson
  | .oid => orPanic ((Scalar.nat? 4 bs).map fun n : Nat => Scalar.integer n)
  | .letter => .ok (.str (String.ofList [Char.ofNat (bs.headD 0).toNat]))
  | .money => orPanic ((moneyText? bs).map .str)
  | .octets => .ok (.str (hexText bs))
  | .timetz => orRefuse ((timetzText? bs).map .str)
  | .interval => orRefuse ((interval? bs).map fun i => .str i.text)
  | .json => json (column = .plain "JSONB") bs
  | .void => .ok .null
  | .list s => (readList (fun _ => s.decode) bs).map (listJson s.toJson)
  | .jsonList => (readList (fun oid => json (oid == versionedOid)) bs).map (listJson id)

/-- Why a cell does not show. -/
inductive Fault where
  | unsupported (typeName : String)
  | undecodable
  deriving DecidableEq, Repr

/-- The message of a fault. -/
def Fault.message : Fault → String
  | unsupported name => "has unsupported type " ++ name ++ "; cast it in the query"
  | undecodable => "could not be decoded"

/-- The JSON value of a cell in a column of a type. -/
def toJson (column : SqlType) (cell : Option Bytes) : Attempt Fault Json :=
  match CellForm.ofType? column with
  | none => .error (.error (.unsupported (CellForm.unsupportedName column)))
  | some form =>
    match cell with
    | none => .ok .null
    | some bs => (decode column bs form).mapError (Abort.map fun _ => .undecodable)

/-- What a row gives in a column of a type for which it has no cell. Only the empty type is shown
without a look at the cell. -/
def missing (column : SqlType) : Attempt Fault Json :=
  match CellForm.ofType? column with
  | none => .error (.error (.unsupported (CellForm.unsupportedName column)))
  | some .void => .ok .null
  | some _ => .error .panic

/-- What a row gives in a column of a type, for its cell if it has one. -/
def shown (column : SqlType) (cell : Option (Option Bytes)) : Attempt Fault Json :=
  cell.elim (missing column) (toJson column)

end Cell

/-- A column of a result. -/
structure Column where
  name : String
  type : SqlType

/-- A row of a result: octets for each column, none for null. -/
abbrev Row := List (Option Bytes)

namespace Row

/-- The error of a cell in a column. -/
def error (column : Column) (f : Cell.Fault) : Error :=
  .query ("column '" ++ column.name ++ "' " ++ f.message)

/-- The values of a row, one for each column. -/
def values : List Column → Row → Attempt Error (List Json)
  | [], _ => .ok []
  | c :: cs, row => do
    let j ← (Cell.shown c.type row.head?).mapError (Abort.map (error c))
    let js ← values cs row.tail
    pure (j :: js)

/-- A row as a record. -/
def record (columns : List Column) (row : Row) : Attempt Error Record := do
  let vs ← values columns row
  pure ⟨columns.map Column.name, vs⟩

/-- Rows as a row set. -/
def rowSet (columns : List Column) (rows : List Row) : Attempt Error RowSet := do
  let vs ← rows.mapM (values columns)
  pure ⟨columns.map Column.name, vs⟩

end Row

end PgRole.Postgres
