import PgRole.Error
import PgRole.Json.Document
import PgRole.Sql.Placeholder

/-!
# Named values on a command line

A value for a placeholder is given as `KEY=VALUE`, the key up to the first equals sign. What follows
is read as JSON if it is JSON, and is a text otherwise. A key is given once.
-/

namespace PgRole

namespace Pairs

/-- What is wrong with a pair. -/
inductive Fault where
  | noEquals (pair : String)
  | emptyKey (pair : String)
  | repeated (key : String)
  deriving DecidableEq, Repr

/-- The message of a fault. -/
def Fault.message : Fault → String
  | noEquals pair => "param '" ++ pair ++ "' is not KEY=VALUE"
  | emptyKey pair => "param '" ++ pair ++ "' has an empty key"
  | repeated key => "param '" ++ key ++ "' given more than once"

/-- The error of a fault. -/
def Fault.error (f : Fault) : Error := .invalidArgument f.message

/-- The value that a text gives. -/
def value (raw : String) : Json := (Json.ofText? raw).getD (.str raw)

/-- Key and value of a pair. -/
def split (pair : String) : Except Fault (String × Json) :=
  let cs := pair.toList
  match cs.dropWhile (· ≠ '=') with
  | [] => .error (.noEquals pair)
  | _ :: raw =>
    let key := cs.takeWhile (· ≠ '=')
    if key.isEmpty then .error (.emptyKey pair)
    else .ok (String.ofList key, value (String.ofList raw))

/-- Adds the values of pairs to those before. -/
def addAll (params : Sql.Params) : List String → Except Fault Sql.Params
  | [] => .ok params
  | pair :: r => do
    let (key, j) ← split pair
    if params.contains key then .error (.repeated key) else addAll (params.insert key j) r

/-- The named values of pairs. -/
def read (pairs : List String) : Except Fault Sql.Params := addAll ∅ pairs

end Pairs

end PgRole
