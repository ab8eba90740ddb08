import PgRole.Connector.Basic
import PgRole.Postgres.Binary
import PgRole.Postgres.Conversion
import PgRole.Sql.Exists
import PgRole.Sql.Placeholder
import PgRole.Sql.Render

/-!
# What a connector does

The calls of a connector: reading one row or all, writing, described statements one by one or in a
list, existence checks, asking whether the server is there, and closing. A statement is compiled or
rendered before anything is sent; one with values is described, each time anew, before the values
are converted, and prepared and executed only after that. Nothing is tried twice.
-/

namespace PgRole

namespace Call

variable {σ : Type}

/-- A message on the connection, which is opened if none is, and its answer. -/
def ask {α : Type} (srv : Server σ) (q : Request) (answer : σ → Answer α × σ) : Call σ α := do
  connect srv
  orFail (← exchange q answer)

/-- The description of a statement, by which values are converted and columns named. -/
def describe (srv : Server σ) (sql : String) : Call σ Description :=
  ask srv (.describe sql) (srv.describe sql)

/-- The description of a statement that is going to be executed. -/
def prepare (srv : Server σ) (sql : String) : Call σ Description :=
  ask srv (.prepare sql) (srv.prepare sql)

/-- The values of a statement as parameters of the types that the server describes. -/
def convert (srv : Server σ) (b : Sql.Bound) : Call σ (List Postgres.Param) := do
  let types ← if b.args.isEmpty then pure [] else Description.params <$> describe srv b.sql
  ofResult (Postgres.Param.all types b.args)

/-- Executes a statement for so many rows, zero for all. -/
def run (srv : Server σ) (b : Sql.Bound) (limit : Nat) : Call σ (Description × Reply) := do
  let params ← convert srv b
  let d ← prepare srv b.sql
  let args := Postgres.Param.encodeAll d.params params
  let r ← orFail (← exchange (.execute b.sql args limit) (srv.execute b.sql args limit))
  return (d, r)

/-- The first row. -/
def firstRow (srv : Server σ) (b : Sql.Bound) : Call σ (Option Record) := do
  let (d, r) ← run srv b 1
  match r.rows with
  | [] => return none
  | row :: _ => some <$> ofAttempt (Postgres.Row.record d.columns row)

/-- All rows. Where there are none, the statement is described again for its columns. -/
def allRows (srv : Server σ) (b : Sql.Bound) : Call σ RowSet := do
  let (d, r) ← run srv b 0
  let d ← if r.rows.isEmpty then describe srv b.sql else pure d
  ofAttempt (Postgres.Row.rowSet d.columns r.rows)

/-- The number of rows that a writing statement touches. Without values it may be several
statements, which run as a script. -/
def write (srv : Server σ) (b : Sql.Bound) : Call σ UInt64 := do
  if b.args.isEmpty then
    let tags ← ask srv (.script b.sql) (srv.script b.sql)
    return tags.foldl (fun n tag => n + affectedRows tag) 0
  else
    let (_, r) ← run srv b 0
    return affectedRows r.tag

end Call

namespace Connector

open Call

variable {σ : Type}

/-- The statement of a text with named values. -/
def compile (sql : String) (params : Option Sql.Params) : Call σ Sql.Bound :=
  ofResult ((Sql.compile sql params).mapError fun f => f.error)

/-- The first row of a query. -/
def fetchOne (srv : Server σ) (sql : String) (params : Option Sql.Params) :
    Call σ (Option Record) := do
  firstRow srv (← compile sql params)

/-- All rows of a query. -/
def fetchAll (srv : Server σ) (sql : String) (params : Option Sql.Params) : Call σ RowSet := do
  allRows srv (← compile sql params)

/-- The number of rows that a writing statement touches. -/
def upsert (srv : Server σ) (sql : String) (params : Option Sql.Params) : Call σ UInt64 := do
  write srv (← compile sql params)

/-- What a described statement brings back. -/
def execute (srv : Server σ) (s : Statement) : Call σ Outcome := do
  let b ← ofResult ((Sql.render s).mapError fun f => f.error)
  match s with
  | .select _ _ _ _ .one => .row <$> firstRow srv b
  | .select _ _ _ _ .all => .rows <$> allRows srv b
  | .insert .. | .update .. | .delete .. => .affected <$> write srv b

/-- What described statements bring back, one after the other up to the first that fails. -/
def executeMany (srv : Server σ) : List Statement → Call σ (List Outcome)
  | [] => return []
  | s :: r => do
    let o ← execute srv s
    let os ← executeMany srv r
    return o :: os

/-- Whether a table has a row under conditions. -/
def rowExists (srv : Server σ) (table : String) (conditions : List ExistsCondition)
    (join : Option Join) : Call σ Bool := do
  let b ← ofResult ((Sql.renderExists table conditions join).mapError fun f => f.error)
  let r ← firstRow srv b
  return ((r.bind fun r => r.get? 0).bind Json.bool?).getD false

/-- Whether the server answers. -/
def ping (srv : Server σ) : Call σ Unit := ask srv .ping srv.ping

/-- Ends the connection if one is open. -/
def close (srv : Server σ) : Call σ Unit := do
  if (← get).connector.isConnected then
    setConnected false
    match ← exchange .terminate srv.terminate with
    | .ok () => return
    | .error .panic => throw .panic
    | .error (.error f) => failWith (.connection ("PostgreSQL close failed: " ++ f.message))

end Connector

end PgRole
