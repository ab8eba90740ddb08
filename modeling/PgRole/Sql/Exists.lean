import PgRole.Sql.Bound
import PgRole.Statement.Basic
import PgRole.Text.WordChar

/-!
# Existence checks

`renderExists` asks whether a table has a row that meets conditions. Names are written without
quotes and so have to be made of word characters. A condition with several values is met by any of
them; two or more conditions need a join.
-/

namespace PgRole.Sql

/-- Why an existence check has no text. -/
inductive Exists.Fault where
  | badTable (name : String)
  | badColumn (name : String)
  | noConditions
  | noJoin
  | noValues (column : String)
  deriving DecidableEq, Repr

namespace Exists

/-- The message of a fault. -/
def Fault.message : Fault → String
  | badTable name => "table name '" ++ name ++ "' contains unauthorized characters"
  | badColumn name => "column name '" ++ name ++ "' contains unauthorized characters"
  | noConditions => "at least one condition is required"
  | noJoin => "join must be set when more than one condition is given"
  | noValues column => "condition on '" ++ column ++ "' has no values"

/-- The error of a fault. -/
def Fault.error (f : Fault) : Error := .invalidArgument f.message

/-- The join of conditions: one condition needs none. -/
def joinOf (conditions : List ExistsCondition) : Option Join → Except Fault Join
  | some j => pure j
  | none => if conditions.length = 1 then pure .and else throw .noJoin

/-- A condition, in parentheses if it has several values. -/
def condition (c : ExistsCondition) : Except Fault (List Fragment) := do
  if !Text.isWord c.column then throw (.badColumn c.column)
  let atoms := c.values.map fun v => [Fragment.text (c.column ++ " = "), .value v]
  match atoms with
  | [] => throw (.noValues c.column)
  | [atom] => pure atom
  | atoms => pure (.text "(" :: Fragment.joined " OR " atoms ++ [.text ")"])

/-- The fragments of an existence check. -/
def fragments (table : String) (conditions : List ExistsCondition) (join : Option Join) :
    Except Fault (List Fragment) := do
  if !Text.isWord table then throw (.badTable table)
  if conditions.isEmpty then throw .noConditions
  let j ← joinOf conditions join
  let parts ← conditions.mapM condition
  pure (.text "SELECT EXISTS (SELECT * FROM " :: .text table :: .text " WHERE " ::
    Fragment.joined (" " ++ j.text ++ " ") parts ++ [.text ")"])

end Exists

/-- The text and the values of an existence check. -/
def renderExists (table : String) (conditions : List ExistsCondition) (join : Option Join) :
    Except Exists.Fault Bound :=
  (Exists.fragments table conditions join).map Bound.ofFragments

end PgRole.Sql
