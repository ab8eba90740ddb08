import PgRole.Calendar.Pattern
import PgRole.Decimal.Reader
import PgRole.Error
import PgRole.Float.Literal
import PgRole.Json.Document
import PgRole.Postgres.Scalar
import PgRole.Postgres.Type
import PgRole.Text.Case

/-!
# Values for parameters

`Param.ofJson` turns a JSON value into the value of a parameter, by the type that the server
described for it. Numbers, dates and so on may come as text. Without a usable type the value keeps
its own: `Param.natural`.
-/

namespace PgRole.Postgres

/-- What a value should have been. -/
inductive Noun where
  | boolean
  | integer
  | number
  | decimal
  | date
  | time
  | timestamp
  | uuid
  deriving DecidableEq, Repr

/-- The words for what a value should have been. -/
def Noun.words : Noun → String
  | .boolean => "a boolean"
  | .integer => "an integer"
  | .number => "a number"
  | .decimal => "a decimal number"
  | .date => "a date"
  | .time => "a time"
  | .timestamp => "a timestamp"
  | .uuid => "a uuid"

/-- Why a value does not convert: a text that does not read, a value of another sort, a number
beyond the type, or a missing list or string. -/
inductive Conversion.Fault where
  | unreadable (text : String) (noun : Noun)
  | mistyped (value : Json) (noun : Noun)
  | outOfRange (i : Int)
  | notText (what : String) (value : Json)
  | notList (element : String) (value : Json)
  | notBytes (value : Json)

namespace Conversion

/-- The message of a fault. -/
def Fault.message : Fault → String
  | unreadable s noun => Text.quoted s ++ " is not " ++ noun.words
  | mistyped j noun => j.text ++ " is not " ++ noun.words
  | outOfRange i => Text.intText i ++ " is out of range"
  | notText what j => "expected a " ++ what ++ " string, got " ++ j.text
  | notList element j => "expected a list for " ++ element ++ "[], got " ++ j.text
  | notBytes j => "expected a string for BYTEA, got " ++ j.text

/-- A reading that may fail. -/
abbrev Result (α : Type) := Except Fault α

/-- What was read, or a fault. -/
def orFault {α : Type} (f : Fault) : Option α → Result α
  | some a => .ok a
  | none => .error f

/-- The words that are true. -/
def trueWords : List String := ["t", "true", "y", "yes", "on", "1"]

/-- The words that are false. -/
def falseWords : List String := ["f", "false", "n", "no", "off", "0"]

/-- A truth value: itself, one or zero, or a word in any case. -/
def bool (j : Json) : Result Bool :=
  match j with
  | .bool b => .ok b
  | .num (.int 1 _) => .ok true
  | .num (.int 0 _) => .ok false
  | .str s =>
    let word := Text.asciiSmall (Text.trim s)
    if trueWords.contains word then .ok true
    else if falseWords.contains word then .ok false
    else .error (.unreadable s .boolean)
  | _ => .error (.mistyped j .boolean)

/-- The float nearest to the greatest integer of 64 bits. It is 2^63: no float is between. -/
def int64Bound : Binary64 := .ofInt (2 ^ 63 - 1)

/-- The integer of 64 bits nearest to an integer. -/
def clampInt64 (i : Int) : Int := max (-2 ^ 63) (min i (2 ^ 63 - 1))

/-- The integer of 64 bits that a float is: it has no fraction and is nearer to zero than the
bound. -/
def floatInt64? (x : Binary64) : Option Int :=
  if x.magnitude < int64Bound.magnitude then x.toInt?.map clampInt64 else none

/-- The integer of 64 bits that a number is. An integer beyond is looked at as a float. -/
def int64? (n : Json.Number) : Option Int :=
  match n.toInt64? with
  | some i => some i.toInt
  | none => floatInt64? n.toFloat

/-- An integer of 64 bits in decimal digits with an optional sign. -/
def readInt64? (s : String) : Option Int :=
  (Text.readInt? (Text.trim s).toList).bind fun i =>
    if -2 ^ 63 ≤ i ∧ i < 2 ^ 63 then some i else none

/-- An integer of 64 bits: a number without fraction, or its digits. -/
def integer (j : Json) : Result Int :=
  match j with
  | .num n => orFault (.mistyped j .integer) (int64? n)
  | .str s => orFault (.unreadable s .integer) (readInt64? s)
  | _ => .error (.mistyped j .integer)

/-- An integer of so many bits. -/
def integerWithin (bits : Nat) (j : Json) : Result Int := do
  let i ← integer j
  if -2 ^ (bits - 1) ≤ i ∧ i < 2 ^ (bits - 1) then pure i else throw (.outOfRange i)

/-- A float: a number, or its text. -/
def float (j : Json) : Result Binary64 :=
  match j with
  | .num n => .ok n.toFloat
  | .str s => orFault (.unreadable s .number) (Binary.ofText? (Text.trim s))
  | _ => .error (.mistyped j .number)

/-- A decimal from the text of a number or from a text. -/
def decimal (j : Json) : Result Decimal :=
  let read (s : String) := orFault (.unreadable s .decimal) (Decimal.read? s)
  match j with
  | .num n => read (String.ofList n.text)
  | .str s => read (Text.trim s)
  | _ => .error (.mistyped j .number)

/-- A text: itself, or the JSON text of another value. -/
def text (j : Json) : String :=
  match j with
  | .str s => s
  | _ => j.text

/-- A value read from a text without white space at its ends. -/
def fromText {α : Type} (what : String) (noun : Noun) (read : List Char → Option α) (j : Json) :
    Result α :=
  match j with
  | .str s =>
    let s := Text.trim s
    orFault (.unreadable s noun) (read s.toList)
  | _ => .error (.notText what j)

/-- A JSON value: the value of a JSON text, or the value itself. -/
def json (j : Json) : Json :=
  match j with
  | .str s => (Json.ofText? s).getD j
  | _ => j

end Conversion

/-- The value of a type that a JSON value gives. -/
def Scalar.ofJson : (s : Scalar) → Json → Conversion.Result s.Value
  | .bool, j => Conversion.bool j
  | .int2, j => Int16.ofInt <$> Conversion.integerWithin 16 j
  | .int4, j => Int32.ofInt <$> Conversion.integerWithin 32 j
  | .int8, j => Int64.ofInt <$> Conversion.integerWithin 64 j
  | .float4, j => (·.convert .single) <$> Conversion.float j
  | .float8, j => Conversion.float j
  | .numeric, j => Conversion.decimal j
  | .text, j => .ok (Conversion.text j)
  | .uuid, j => Conversion.fromText "uuid" .uuid Uuid.ofChars? j
  | .date, j => Conversion.fromText "date" .date Calendar.date? j
  | .time, j => Conversion.fromText "time" .time Calendar.time? j
  | .timestamp, j => Conversion.fromText "timestamp" .timestamp Calendar.moment? j
  | .timestamptz, j => Conversion.fromText "timestamp" .timestamp Calendar.instant? j

/-- The value of a parameter. -/
inductive Param where
  | null
  | scalar (s : Scalar) (v : s.Value)
  | list (s : Scalar) (items : List (Option s.Value))
  | bytes (bs : Bytes)
  | json (j : Json)
  | label (typeName : String) (s : String)

namespace Param

open Conversion

/-- Items of a type, null for none. -/
def items (s : Scalar) : List Json → Result (List (Option s.Value))
  | [] => .ok []
  | j :: r => do
    let v ← if j.isNull then pure none else some <$> s.ofJson j
    let vs ← items s r
    pure (v :: vs)

/-- A list that keeps its own type: all texts, all truth values, all integers of 64 bits, all
numbers, and otherwise JSON. -/
def naturalList (js : List Json) : Param :=
  if js.all fun j => j.str?.isSome then .list .text (js.map Json.str?)
  else if js.all fun j => j.bool?.isSome then .list .bool (js.map Json.bool?)
  else if js.all fun j => (j.num?.bind Json.Number.toInt64?).isSome then
    .list .int8 (js.map fun j => j.num?.bind Json.Number.toInt64?)
  else if js.all fun j => j.num?.isSome then
    .list .float8 (js.map fun j => j.num?.map Json.Number.toFloat)
  else .json (.arr js)

/-- A value that keeps its own type. -/
def natural : Json → Param
  | .null => .null
  | .bool b => .scalar .bool b
  | .num n =>
    match n.toInt64? with
    | some i => .scalar .int8 i
    | none => .scalar .float8 n.toFloat
  | .str s => .scalar .text s
  | .arr js => naturalList js
  | .obj fields => .json (.obj fields)

/-- A list for a list type with elements of a name. -/
def listOf (element : String) (j : Json) : Result Param :=
  match j with
  | .arr js =>
    match Scalar.ofElementName? element with
    | some s => .list s <$> items s js
    | none => .ok (natural j)
  | _ => .error (.notList element j)

/-- The octets of a text. -/
def octets (j : Json) : Result Param :=
  match j with
  | .str s => .ok (.bytes (Bytes.ofText s))
  | _ => .error (.notBytes j)

/-- The conversion that the name of a type stands for, if it does for one. -/
def byName? (name : String) : Option (Json → Result Param) :=
  match elementName? name with
  | some element => some (listOf element)
  | none =>
    match Scalar.ofName? name with
    | some s => some fun j => .scalar s <$> s.ofJson j
    | none =>
      match name with
      | "BYTEA" => some octets
      | "JSON" | "JSONB" => some fun j => .ok (.json (Conversion.json j))
      | "?" => some fun j => .ok (natural j)
      | _ => none

/-- A value that is not null for a type. The name of the type comes first; an enumeration takes a
label, and a domain what its base takes. -/
def ofType : SqlType → Json → Result Param
  | .plain name, j => ((byName? name).getD fun j => .ok (natural j)) j
  | .enumeration name, j =>
    ((byName? name).getD fun j => .ok (.label name (Conversion.text j))) j
  | .domain name base, j => ((byName? name).getD (ofType base)) j

/-- A value for a parameter, by the type described for it. -/
def ofJson (t : Option SqlType) (j : Json) : Result Param :=
  match j, t with
  | .null, _ => .ok .null
  | j, none => .ok (natural j)
  | j, some t => ofType t j

/-- The error of a fault at a parameter with a number. -/
def error (number : Nat) (f : Fault) : Error :=
  .invalidArgument ("parameter $" ++ Text.natText number ++ ": " ++ f.message)

/-- Values for parameters from a number on, each by the type at its place. -/
def allFrom (number : Nat) : List SqlType → List Json → Except Error (List Param)
  | _, [] => .ok []
  | ts, j :: r => do
    let p ← (ofJson ts.head? j).mapError (error number)
    let ps ← allFrom (number + 1) ts.tail r
    pure (p :: ps)

/-- The values of a statement's arguments by the types described for them. -/
def all (types : List SqlType) (args : List Json) : Except Error (List Param) :=
  allFrom 1 types args

end Param

end PgRole.Postgres
