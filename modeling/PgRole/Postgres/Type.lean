/-!
# Types of the server

A type as the server describes it: a name, and for enumerations and domains what they are. Types
of every other sort are told apart by their names alone; the name of a list type ends in `[]`.

A catalog holds the types a database declares besides the built-in ones; `Catalog.resolve` finds
the type of a name in it.
-/

namespace PgRole.Postgres

/-- A type as the server describes it. -/
inductive SqlType where
  | plain (name : String)
  | enumeration (name : String)
  | domain (name : String) (base : SqlType)
  deriving DecidableEq, Repr, Inhabited

namespace SqlType

/-- The name of a type. -/
def name : SqlType → String
  | plain n => n
  | enumeration n => n
  | domain n _ => n

end SqlType

/-- The name of the element type that the name of a list type begins with. -/
def elementName? (name : String) : Option String :=
  match name.toList.reverse with
  | ']' :: '[' :: r => some (String.ofList r.reverse)
  | _ => none

/-- What a declared type is. -/
inductive Nature where
  | enumeration
  | domain (base : String)
  | other
  deriving DecidableEq, Repr

/-- A type that a database declares. -/
structure Declaration where
  name : String
  nature : Nature
  deriving DecidableEq, Repr

/-- The types that a database declares. -/
abbrev Catalog := List Declaration

namespace Catalog

/-- The name under which a built-in type is described: padded text goes by its short name. -/
def builtinName (name : String) : String :=
  if name = "BPCHAR" then "CHAR" else if name = "BPCHAR[]" then "CHAR[]" else name

/-- The type of a name, following so many domains. -/
def resolveWithin (c : Catalog) : Nat → String → SqlType
  | 0, name => .plain name
  | n + 1, name =>
    match c.find? fun d => d.name == name with
    | none => .plain (builtinName name)
    | some d =>
      match d.nature with
      | .enumeration => .enumeration name
      | .domain base => .domain name (resolveWithin c n base)
      | .other => .plain name

/-- The type of a name. -/
def resolve (c : Catalog) (name : String) : SqlType := c.resolveWithin (c.length + 1) name

end Catalog

example : elementName? "INT4[]" = some "INT4" := by decide
example : elementName? "INT4" = none := by decide

end PgRole.Postgres
