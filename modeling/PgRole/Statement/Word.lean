import PgRole.Json.Basic
import PgRole.Text.Blank
import PgRole.Text.Case

/-!
# Words of statements

The closed vocabularies of a statement: the operator of a condition, the join of conditions, and
how many rows a selection fetches. Each word has one text, a lenient reading of texts that people
type, and a strict form in JSON.
-/

namespace PgRole

/-- The operator of a condition. -/
inductive Operator where
  | equal
  | notEqual
  | greater
  | less
  | greaterEqual
  | lessEqual
  | isIn
  | like
  deriving DecidableEq, Repr

namespace Operator

/-- All operators. -/
def all : List Operator :=
  [equal, notEqual, greater, less, greaterEqual, lessEqual, isIn, like]

/-- The text of an operator. -/
def text : Operator → String
  | equal => "="
  | notEqual => "<>"
  | greater => ">"
  | less => "<"
  | greaterEqual => ">="
  | lessEqual => "<="
  | isIn => "in"
  | like => "like"

/-- Whether the operator compares with a list of values. -/
def takesList (o : Operator) : Bool := o == isIn

/-- The operator of a text, in any case and between white space; `==` and `!=` are read as well. -/
def ofText? (s : String) : Option Operator :=
  let word := Text.smallLetters (Text.trim s)
  let word := if word = "==" then "=" else if word = "!=" then "<>" else word
  all.find? fun o => o.text == word

/-- The operator of exactly its text. -/
def ofExactText? (s : String) : Option Operator := all.find? fun o => o.text == s

end Operator

/-- The word between conditions. -/
inductive Join where
  | and
  | or
  deriving DecidableEq, Repr, Inhabited

namespace Join

/-- The text of a join. -/
def text : Join → String
  | and => "AND"
  | or => "OR"

/-- The join of a text in any case. -/
def ofText? (s : String) : Option Join :=
  let word := Text.capitals s
  if word = "AND" then some and else if word = "OR" then some or else none

/-- The join of exactly its text. -/
def ofExactText? (s : String) : Option Join :=
  if s = "AND" then some and else if s = "OR" then some or else none

end Join

/-- How many rows a selection fetches. -/
inductive Fetch where
  | one
  | all
  deriving DecidableEq, Repr, Inhabited

namespace Fetch

/-- The text of a fetch. -/
def text : Fetch → String
  | one => "fetchone"
  | all => "fetchall"

/-- The word for a fetch in JSON. -/
def word : Fetch → String
  | one => "one"
  | all => "all"

/-- The fetch of exactly one of its two words. -/
def ofExactText? (s : String) : Option Fetch :=
  if s = "one" ∨ s = "fetchone" then some one
  else if s = "all" ∨ s = "fetchall" then some all
  else none

/-- The fetch of one of its two words in any case. -/
def ofText? (s : String) : Option Fetch := ofExactText? (Text.smallLetters s)

end Fetch

/-- Why a text is none of the words. -/
inductive Word.Fault where
  | operator (s : String)
  | join (s : String)
  | fetch (s : String)
  deriving DecidableEq, Repr

/-- The message of a fault. -/
def Word.Fault.message : Word.Fault → String
  | .operator s => "Unknown operator: " ++ s
  | .join s => "Unknown join: " ++ s
  | .fetch s => "Unknown fetch method: " ++ s

end PgRole
