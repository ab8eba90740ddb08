import PgRole.Statement.Basic

/-!
# Statements as JSON

A statement is written as an object with its kind and all its fields. It is read from an object,
where fields with a default may be missing and other members are passed over, or from a list: the
kind and then the fields in order, those with a default missing only from the end.

`Shape` is a record in either of the two forms; `Shape.field` takes a field out of it by name or by
place.
-/

namespace PgRole

/-- A record as JSON: an object of its fields or the list of their values. -/
inductive Json.Shape where
  | members (fields : List (String × Json))
  | values (items : List Json)

namespace Json.Shape

/-- The record that a value is, with at most so many fields. -/
def of? (count : Nat) : Json → Option Shape
  | .obj fields => some (.members fields)
  | .arr items => if items.length ≤ count then some (.values items) else none
  | _ => none

/-- The value of a field, by its name or its place. -/
def field? (s : Shape) (name : String) (place : Nat) : Option Json :=
  match s with
  | .members fields => Entries.get? name fields
  | .values items => items[place]?

/-- A field that may be missing, read by a function. -/
def withDefault {α : Type} (s : Shape) (name : String) (place : Nat) (default : α)
    (read : Json → Option α) : Option α :=
  match s.field? name place with
  | none => some default
  | some j => read j

/-- A field that must be there, read by a function. -/
def required {α : Type} (s : Shape) (name : String) (place : Nat) (read : Json → Option α) :
    Option α :=
  (s.field? name place).bind read

end Json.Shape

/-- A list whose items a function reads. -/
def Json.listOf? {α : Type} (read : Json → Option α) (j : Json) : Option (List α) :=
  j.arr?.bind fun items => items.mapM read

/-- A word of a vocabulary: its text, or an object of it alone with nothing in it. -/
def Json.wordWith? {α : Type} (read : String → Option α) (empty : Json → Bool) : Json → Option α
  | .str s => read s
  | .obj [(s, j)] => if empty j then read s else none
  | _ => none

/-- Whether a value is `null` or an object without members. -/
def Json.isVoid : Json → Bool
  | .null => true
  | .obj [] => true
  | _ => false

namespace Operator

/-- The operator that a part of a statement names. -/
def ofJson? (j : Json) : Option Operator := j.wordWith? ofExactText? Json.isVoid

/-- The operator as JSON. -/
def toJson (o : Operator) : Json := .str o.text

end Operator

namespace Join

/-- The join that a part of a statement names. -/
def ofJson? (j : Json) : Option Join := j.wordWith? ofExactText? Json.isVoid

/-- The join that a value by itself names. -/
def ofJsonAlone? (j : Json) : Option Join := j.wordWith? ofExactText? Json.isNull

/-- The join as JSON. -/
def toJson (j : Join) : Json := .str j.text

end Join

namespace Fetch

/-- The fetch that a part of a statement names. -/
def ofJson? (j : Json) : Option Fetch := j.wordWith? ofExactText? Json.isVoid

/-- The fetch as JSON. -/
def toJson (m : Fetch) : Json := .str m.word

end Fetch

namespace Fields

/-- The fields that a part of a statement names. -/
def ofJson? : Json → Option Fields
  | .str "all" => some .all
  | .obj [("all", j)] => if j.isVoid then some .all else none
  | .obj [("columns", j)] => (j.listOf? Json.str?).map .columns
  | .obj [("raw", j)] => j.str?.map .raw
  | _ => none

/-- The fields as JSON. -/
def toJson : Fields → Json
  | .all => .str "all"
  | .columns names => .obj [("columns", .strings names)]
  | .raw expression => .obj [("raw", .str expression)]

end Fields

namespace Condition

/-- The condition of a record. -/
def ofJson? (j : Json) : Option Condition := do
  let s ← Json.Shape.of? 3 j
  let field ← s.required "field" 0 Json.str?
  let value ← s.required "value" 1 some
  let operator ← s.required "operator" 2 Operator.ofJson?
  pure ⟨field, value, operator⟩

/-- The condition as JSON. -/
def toJson (c : Condition) : Json :=
  .obj [("field", .str c.field), ("operator", c.operator.toJson), ("value", c.value)]

end Condition

namespace Assignment

/-- The assignment of a record. -/
def ofJson? (j : Json) : Option Assignment := do
  let s ← Json.Shape.of? 2 j
  let field ← s.required "field" 0 Json.str?
  let value ← s.required "value" 1 some
  pure ⟨field, value⟩

/-- The assignment as JSON. -/
def toJson (a : Assignment) : Json := .obj [("field", .str a.field), ("value", a.value)]

end Assignment

namespace ExistsCondition

/-- The condition of a record. -/
def ofJson? (j : Json) : Option ExistsCondition := do
  let s ← Json.Shape.of? 2 j
  let column ← s.required "column" 0 Json.str?
  let values ← s.required "values" 1 Json.arr?
  pure ⟨column, values⟩

end ExistsCondition

namespace Statement

/-- The kind of a statement. -/
def kind : Statement → String
  | insert .. => "insert"
  | select .. => "select"
  | update .. => "update"
  | delete .. => "delete"

/-- The kind and the fields of a statement apart. -/
def tagged? : Json → Option (String × Json)
  | .obj fields => do
    let kind ← (Entries.get? "kind" fields).bind Json.str?
    pure (kind, .obj fields)
  | .arr (.str kind :: items) => some (kind, .arr items)
  | _ => none

/-- The statement of a kind that fields give. -/
def ofFields? (kind : String) (j : Json) : Option Statement :=
  let assignments := Json.listOf? Assignment.ofJson?
  let conditions := Json.listOf? Condition.ofJson?
  match kind with
  | "insert" => do
    let s ← Json.Shape.of? 2 j
    let table ← s.required "table" 0 Json.str?
    let sets ← s.required "sets" 1 assignments
    pure (.insert table sets)
  | "select" => do
    let s ← Json.Shape.of? 5 j
    let table ← s.required "table" 0 Json.str?
    let fields ← s.withDefault "fields" 1 .all Fields.ofJson?
    let wheres ← s.withDefault "wheres" 2 [] conditions
    let join ← s.withDefault "join" 3 .and Join.ofJson?
    let method ← s.withDefault "method" 4 .one Fetch.ofJson?
    pure (.select table fields wheres join method)
  | "update" => do
    let s ← Json.Shape.of? 4 j
    let table ← s.required "table" 0 Json.str?
    let sets ← s.required "sets" 1 assignments
    let wheres ← s.withDefault "wheres" 2 [] conditions
    let join ← s.withDefault "join" 3 .and Join.ofJson?
    pure (.update table sets wheres join)
  | "delete" => do
    let s ← Json.Shape.of? 3 j
    let table ← s.required "table" 0 Json.str?
    let wheres ← s.withDefault "wheres" 1 [] conditions
    let join ← s.withDefault "join" 2 .and Join.ofJson?
    pure (.delete table wheres join)
  | _ => none

/-- The statement that a JSON value describes. -/
def ofJson? (j : Json) : Option Statement := do
  let (kind, fields) ← tagged? j
  ofFields? kind fields

/-- Assignments as JSON. -/
def setsJson (sets : List Assignment) : Json := .arr (sets.map Assignment.toJson)

/-- Conditions as JSON. -/
def wheresJson (wheres : List Condition) : Json := .arr (wheres.map Condition.toJson)

/-- The statement as JSON. -/
def toJson : Statement → Json
  | insert t sets =>
    .obj [("kind", .str "insert"), ("sets", setsJson sets), ("table", .str t)]
  | select t f ws j m =>
    .obj [("fields", f.toJson), ("join", j.toJson), ("kind", .str "select"),
      ("method", m.toJson), ("table", .str t), ("wheres", wheresJson ws)]
  | update t sets ws j =>
    .obj [("join", j.toJson), ("kind", .str "update"), ("sets", setsJson sets),
      ("table", .str t), ("wheres", wheresJson ws)]
  | delete t ws j =>
    .obj [("join", j.toJson), ("kind", .str "delete"), ("table", .str t),
      ("wheres", wheresJson ws)]

end Statement

end PgRole
