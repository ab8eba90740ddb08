import PgRole.Json.Basic
import PgRole.Json.Token

/-!
# JSON documents

A JSON text as it is written: numbers by their digits, members in order with repeated names kept,
and strings that may lack a text. `Document.parse?` builds it from the tokens with a stack of open
lists and objects, one token a step. `Document.value?` takes the value out: the last member counts
for a name, a string needs a text, a number must be in range, and lists and objects may be nested
127 deep.
-/

namespace PgRole.Json

/-- A JSON text as it is written. -/
inductive Document where
  | null
  | bool (b : Bool)
  | num (n : Literal)
  | str (s : Option String)
  | arr (items : List Document)
  | obj (members : List (Option String × Document))
  deriving Inhabited

namespace Document

/-- An open list or object, with the items or members before the one at hand in reverse; an object
also has the name of the member at hand. -/
inductive Frame where
  | item (before : List Document)
  | member (before : List (Option String × Document)) (name : Option String)

/-- What a text is at: a value, or a place in an open list or object. -/
inductive Place where
  | value (outer : List Frame)
  | firstItem (outer : List Frame)
  | firstName (outer : List Frame)
  | memberName (before : List (Option String × Document)) (outer : List Frame)
  | colon (before : List (Option String × Document)) (name : Option String) (outer : List Frame)
  | done (d : Document) (outer : List Frame)

namespace Place

/-- The place after a token where a value is due. -/
def startValue (outer : List Frame) : Token → Option Place
  | .openList => some (.firstItem outer)
  | .openObject => some (.firstName outer)
  | .null => some (.done .null outer)
  | .bool b => some (.done (.bool b) outer)
  | .num n => some (.done (.num n) outer)
  | .str s => some (.done (.str s) outer)
  | _ => none

/-- The place after a token. -/
def step (t : Token) : Place → Option Place
  | .value outer => startValue outer t
  | .firstItem outer =>
    if t = .closeList then some (.done (.arr []) outer) else startValue (.item [] :: outer) t
  | .firstName outer =>
    match t with
    | .closeObject => some (.done (.obj []) outer)
    | .str s => some (.colon [] s outer)
    | _ => none
  | .memberName before outer =>
    match t with
    | .str s => some (.colon before s outer)
    | _ => none
  | .colon before name outer =>
    if t = .colon then some (.value (.member before name :: outer)) else none
  | .done d (.item before :: outer) =>
    match t with
    | .comma => some (.value (.item (d :: before) :: outer))
    | .closeList => some (.done (.arr (d :: before).reverse) outer)
    | _ => none
  | .done d (.member before name :: outer) =>
    match t with
    | .comma => some (.memberName ((name, d) :: before) outer)
    | .closeObject => some (.done (.obj ((name, d) :: before).reverse) outer)
    | _ => none
  | .done _ [] => none

end Place

/-- The document of all tokens from a place on. -/
def run : List Token → Place → Option Document
  | [], .done d [] => some d
  | [], _ => none
  | t :: ts, p => (p.step t).bind (run ts)

/-- The document of a text. -/
def parse? (cs : List Char) : Option Document :=
  (Token.all? cs).bind fun ts => run ts (.value [])

/-- How deep lists and objects may be nested in a value. -/
def maxDepth : Nat := 127

mutual

/-- The value of a document whose lists and objects may be nested so deep. -/
def valueWithin? (depth : Nat) : Document → Option Json
  | .null => some .null
  | .bool b => some (.bool b)
  | .num n => n.value?.map .num
  | .str s => s.map .str
  | .arr items =>
    match depth with
    | 0 => none
    | d + 1 => (items? d items).map .arr
  | .obj members =>
    match depth with
    | 0 => none
    | d + 1 => (members? d members).map Json.object

/-- The values of items. -/
def items? (depth : Nat) : List Document → Option (List Json)
  | [] => some []
  | d :: r => do
    let j ← valueWithin? depth d
    let js ← items? depth r
    pure (j :: js)

/-- The names and values of members. -/
def members? (depth : Nat) : List (Option String × Document) → Option (List (String × Json))
  | [] => some []
  | (name, d) :: r => do
    let k ← name
    let j ← valueWithin? depth d
    let js ← members? depth r
    pure ((k, j) :: js)

end

/-- The value of a document. -/
def value? (d : Document) : Option Json := d.valueWithin? maxDepth

end Document

/-- The value of a JSON text. -/
def ofText? (s : String) : Option Json := (Document.parse? s.toList).bind Document.value?

end PgRole.Json
