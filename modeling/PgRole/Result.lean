import PgRole.Statement.Form

/-!
# Results

What a statement brings back: a record (the values of one row under the names of the columns), a
row set (the names once and the rows), or the number of rows a writing statement touched. All three
can be written as JSON and read back.
-/

namespace PgRole

/-- The values of one row under the names of the columns. -/
structure Record where
  columns : List String
  values : List Json

namespace Record

/-- The value at a place. -/
def get? (r : Record) (i : Nat) : Option Json := r.values[i]?

/-- The value of the first column with a name. -/
def getByName? (r : Record) (column : String) : Option Json :=
  (r.columns.findIdx? (· == column)).bind r.get?

/-- The number of values. -/
def size (r : Record) : Nat := r.values.length

/-- The record as JSON. -/
def toJson (r : Record) : Json :=
  .obj [("columns", .strings r.columns), ("values", .arr r.values)]

/-- The record of a JSON value. -/
def ofJson? (j : Json) : Option Record := do
  let s ← Json.Shape.of? 2 j
  let columns ← s.required "columns" 0 (Json.listOf? Json.str?)
  let values ← s.required "values" 1 Json.arr?
  pure ⟨columns, values⟩

end Record

/-- Rows under the names of the columns. -/
structure RowSet where
  columns : List String
  rows : List (List Json)

namespace RowSet

/-- The number of rows. -/
def size (s : RowSet) : Nat := s.rows.length

/-- The rows as records. -/
def records (s : RowSet) : List Record := s.rows.map fun row => ⟨s.columns, row⟩

/-- The first row as a record. -/
def first? (s : RowSet) : Option Record := s.records.head?

/-- The row set as JSON. -/
def toJson (s : RowSet) : Json :=
  .obj [("columns", .strings s.columns), ("rows", .arr (s.rows.map .arr))]

/-- The row set of a JSON value. -/
def ofJson? (j : Json) : Option RowSet := do
  let s ← Json.Shape.of? 2 j
  let columns ← s.required "columns" 0 (Json.listOf? Json.str?)
  let rows ← s.required "rows" 1 (Json.listOf? Json.arr?)
  pure ⟨columns, rows⟩

end RowSet

/-- What a statement brought back. -/
inductive Outcome where
  | row (r : Option Record)
  | rows (s : RowSet)
  | affected (n : UInt64)

namespace Outcome

/-- The one row, or the first of several. -/
def row? : Outcome → Option Record
  | row r => r
  | rows s => s.first?
  | affected _ => none

/-- The number of rows touched. -/
def affected? : Outcome → Option UInt64
  | affected n => some n
  | _ => none

/-- The outcome as JSON. -/
def toJson : Outcome → Json
  | row none => .obj [("row", .null)]
  | row (some r) => .obj [("row", r.toJson)]
  | rows s => .obj [("rows", s.toJson)]
  | affected n => .obj [("affected", .num (.ofUInt64 n))]

/-- The outcome of a JSON value. -/
def ofJson? : Json → Option Outcome
  | .obj [("row", .null)] => some (.row none)
  | .obj [("row", j)] => (Record.ofJson? j).map fun r => .row (some r)
  | .obj [("rows", j)] => (RowSet.ofJson? j).map .rows
  | .obj [("affected", .num n)] => n.toUInt64?.map .affected
  | _ => none

end Outcome

end PgRole
