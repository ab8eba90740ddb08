import PgRole.Statement.Word

/-!
# Statements

A statement described by what it does: insert, select, update or delete, with values as JSON. The
builder functions add one part at the end; nothing is checked before a statement is rendered.
-/

namespace PgRole

/-- A condition on a field. -/
structure Condition where
  field : String
  value : Json
  operator : Operator

/-- A field and the value it gets. -/
structure Assignment where
  field : String
  value : Json

/-- What a selection returns of each row. -/
inductive Fields where
  | all
  | columns (names : List String)
  | raw (expression : String)
  deriving DecidableEq, Repr, Inhabited

/-- A statement. -/
inductive Statement where
  | insert (table : String) (sets : List Assignment)
  | select (table : String) (fields : Fields) (wheres : List Condition) (join : Join)
      (method : Fetch)
  | update (table : String) (sets : List Assignment) (wheres : List Condition) (join : Join)
  | delete (table : String) (wheres : List Condition) (join : Join)

/-- A column and the values one of which it has to have. -/
structure ExistsCondition where
  column : String
  values : List Json

namespace Statement

/-- The table a statement is about. -/
def table : Statement → String
  | insert t _ => t
  | select t _ _ _ _ => t
  | update t _ _ _ => t
  | delete t _ _ => t

/-- An insertion without values. -/
def newInsert (table : String) : Statement := .insert table []

/-- A selection of one row with all columns. -/
def newSelect (table : String) : Statement := .select table .all [] .and .one

/-- An update without values. -/
def newUpdate (table : String) : Statement := .update table [] [] .and

/-- A deletion of all rows. -/
def newDelete (table : String) : Statement := .delete table [] .and

/-- Adds an assignment, where the statement has assignments. -/
def set? (a : Assignment) : Statement → Option Statement
  | insert t sets => some (.insert t (sets ++ [a]))
  | update t sets ws j => some (.update t (sets ++ [a]) ws j)
  | select .. | delete .. => none

/-- Adds a condition, where the statement has conditions. -/
def filter? (c : Condition) : Statement → Option Statement
  | select t f ws j m => some (.select t f (ws ++ [c]) j m)
  | update t sets ws j => some (.update t sets (ws ++ [c]) j)
  | delete t ws j => some (.delete t (ws ++ [c]) j)
  | insert .. => none

/-- Joins the conditions by a word, where the statement has conditions. -/
def join? (j : Join) : Statement → Option Statement
  | select t f ws _ m => some (.select t f ws j m)
  | update t sets ws _ => some (.update t sets ws j)
  | delete t ws _ => some (.delete t ws j)
  | insert .. => none

/-- Selects other fields, of a selection. -/
def fields? (f : Fields) : Statement → Option Statement
  | select t _ ws j m => some (.select t f ws j m)
  | insert .. | update .. | delete .. => none

/-- Fetches so many rows, of a selection. -/
def method? (m : Fetch) : Statement → Option Statement
  | select t f ws j _ => some (.select t f ws j m)
  | insert .. | update .. | delete .. => none

end Statement

end PgRole
