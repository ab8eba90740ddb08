import PgRole.Error
import PgRole.Json.Basic

/-!
# Bound statements

A statement text with numbered parameters and the values for them. A text under construction is a
list of fragments, in which a value stands where its parameter will; `Bound.ofFragments` numbers
the values from one in the order in which they stand, so that text and values cannot fall out of
step.
-/

namespace PgRole.Sql

/-- A statement text and the values of its parameters. -/
structure Bound where
  sql : String
  args : List Json

/-- A part of a statement text: text as it is, a quoted name, or a value. -/
inductive Fragment where
  | text (s : String)
  | name (s : String)
  | value (j : Json)

/-- The text of the parameter with a number. -/
def paramText (k : Nat) : List Char := '$' :: Text.decimal k

/-- The characters of a quoted name: a quote inside is written twice. -/
def quotedName (cs : List Char) : List Char :=
  '"' :: cs.flatMap (fun c => if c = '"' then ['"', '"'] else [c]) ++ ['"']

namespace Fragment

/-- The text of fragments whose first value has a number. -/
def sqlFrom (k : Nat) : List Fragment → List Char
  | [] => []
  | .text s :: r => s.toList ++ sqlFrom k r
  | .name s :: r => quotedName s.toList ++ sqlFrom k r
  | .value _ :: r => paramText k ++ sqlFrom (k + 1) r

/-- The value of a fragment. -/
def value? : Fragment → Option Json
  | .value j => some j
  | _ => none

/-- Lists of fragments with a text between them. -/
def joined (separator : String) : List (List Fragment) → List Fragment
  | [] => []
  | [f] => f
  | f :: r => f ++ .text separator :: joined separator r

end Fragment

/-- The statement of fragments. -/
def Bound.ofFragments (fs : List Fragment) : Bound :=
  ⟨String.ofList (Fragment.sqlFrom 1 fs), fs.filterMap Fragment.value?⟩

end PgRole.Sql
