import PgRole.Sql.Bound
import PgRole.Statement.Basic

/-!
# Statements as text

`render` writes a statement with every name quoted and every value as a parameter. It fails
where a name is empty or has a NUL, where nothing would be selected or set, and where a list
operator has no list. A list operator over the empty list is never true and takes no parameter.
-/

namespace PgRole.Sql

/-- Why a statement has no text. -/
inductive Render.Fault where
  | badName (name : String)
  | noColumns
  | blankExpression
  | nothingSet (kind : String)
  | notAList (operator : Operator) (field : String)
  deriving DecidableEq, Repr

namespace Render

/-- The message of a fault. -/
def Fault.message : Fault → String
  | badName name => "invalid identifier " ++ Text.quoted name
  | noColumns => "select needs at least one column"
  | blankExpression => "select expression cannot be empty"
  | nothingSet kind => kind ++ " needs at least one field"
  | notAList operator field =>
    "'" ++ operator.text ++ "' condition on '" ++ field ++ "' needs a list value"

/-- The error of a fault. -/
def Fault.error (f : Fault) : Error := .invalidArgument f.message

/-- Whether a name can be quoted. -/
def isName (s : String) : Bool := !s.toList.isEmpty && !s.toList.contains '\x00'

/-- A name, if it can be quoted. -/
def name (s : String) : Except Fault (List Fragment) :=
  if isName s then .ok [.name s] else .error (.badName s)

/-- The parts of a text between dots. -/
def dotParts : List Char → List (List Char)
  | [] => [[]]
  | '.' :: r => [] :: dotParts r
  | c :: r =>
    match dotParts r with
    | [] => [[c]]
    | p :: ps => (c :: p) :: ps

/-- A table, each part between dots quoted by itself. -/
def table (s : String) : Except Fault (List Fragment) := do
  let parts ← (dotParts s.toList).mapM fun p => name (String.ofList p)
  pure (Fragment.joined "." parts)

/-- A condition. -/
def condition (c : Condition) : Except Fault (List Fragment) := do
  if c.operator.takesList then
    match c.value with
    | .arr [] => pure [.text "FALSE"]
    | .arr _ => pure ((← name c.field) ++ [.text " = ANY(", .value c.value, .text ")"])
    | _ => throw (.notAList c.operator c.field)
  else
    let word := if c.operator = .like then "LIKE" else c.operator.text
    pure ((← name c.field) ++ [.text (" " ++ word ++ " "), .value c.value])

/-- The text between conditions. -/
def joinText (j : Join) : String := " " ++ j.text ++ " "

/-- The conditions of a statement, if it has any. -/
def wheres (ws : List Condition) (j : Join) : Except Fault (List Fragment) := do
  if ws.isEmpty then pure []
  else
    let conditions ← ws.mapM condition
    pure (.text " WHERE " :: Fragment.joined (joinText j) conditions)

/-- What a selection returns. -/
def fields : Fields → Except Fault (List Fragment)
  | .all => pure [.text "*"]
  | .columns [] => throw .noColumns
  | .columns names => do
    let names ← names.mapM name
    pure (Fragment.joined ", " names)
  | .raw expression =>
    if Text.allBlank expression then throw .blankExpression else pure [.text expression]

/-- Assignments of an update. -/
def assignment (a : Assignment) : Except Fault (List Fragment) := do
  pure ((← name a.field) ++ [.text " = ", .value a.value])

/-- The fragments of a statement. -/
def fragments : Statement → Except Fault (List Fragment)
  | .select t f ws j _ => do
    let selected ← fields f
    let target ← table t
    let filter ← wheres ws j
    pure (.text "SELECT " :: selected ++ .text " FROM " :: target ++ filter)
  | .insert _ [] => throw (.nothingSet "insert")
  | .insert t sets => do
    let target ← table t
    let names ← sets.mapM fun a => name a.field
    let values := sets.map fun a => [Fragment.value a.value]
    pure (.text "INSERT INTO " :: target ++ .text " (" :: Fragment.joined ", " names ++
      .text ") VALUES (" :: Fragment.joined ", " values ++ [.text ")"])
  | .update _ [] _ _ => throw (.nothingSet "update")
  | .update t sets ws j => do
    let target ← table t
    let assignments ← sets.mapM assignment
    let filter ← wheres ws j
    pure (.text "UPDATE " :: target ++ .text " SET " :: Fragment.joined ", " assignments ++ filter)
  | .delete t ws j => do
    let target ← table t
    let filter ← wheres ws j
    pure (.text "DELETE FROM " :: target ++ filter)

end Render

/-- The text and the values of a statement. -/
def render (s : Statement) : Except Render.Fault Bound :=
  (Render.fragments s).map Bound.ofFragments

end PgRole.Sql
