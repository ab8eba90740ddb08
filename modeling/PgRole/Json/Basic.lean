import PgRole.Json.Number
import PgRole.Keyed

/-!
# JSON values

A value of JSON. The members of an object stand in increasing order of their names with one value
for each name; `Json.object` brings members into that form, the last value for a name counting.
-/

namespace PgRole

/-- A value of JSON. -/
inductive Json where
  | null
  | bool (b : Bool)
  | num (n : Json.Number)
  | str (s : String)
  | arr (items : List Json)
  | obj (fields : List (String × Json))
  deriving Inhabited

namespace Json

/-- An object of members in any order; of those with one name the last counts. -/
def object (fields : List (String × Json)) : Json := .obj (Entries.ofList fields)

/-- Whether it is `null`. -/
def isNull : Json → Bool
  | .null => true
  | _ => false

/-- The text of a string. -/
def str? : Json → Option String
  | .str s => some s
  | _ => none

/-- The number of a number. -/
def num? : Json → Option Number
  | .num n => some n
  | _ => none

/-- The truth value of a boolean. -/
def bool? : Json → Option Bool
  | .bool b => some b
  | _ => none

/-- The items of an array. -/
def arr? : Json → Option (List Json)
  | .arr items => some items
  | _ => none

/-- The members of an object. -/
def obj? : Json → Option (List (String × Json))
  | .obj fields => some fields
  | _ => none

/-- The value of a member of an object. -/
def field? (j : Json) (name : String) : Option Json := j.obj?.bind (Entries.get? name)

/-- A list of strings. -/
def strings (l : List String) : Json := .arr (l.map .str)

end Json

end PgRole
