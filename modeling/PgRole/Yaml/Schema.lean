import PgRole.Float.Literal
import PgRole.Yaml.Node

/-!
# What scalars mean

A plain scalar without a tag is null, a truth value, an integer, another number or a text by the way
it is written. Digits behind a leading zero are a text, and so are numbers that are not finite or
longer than 128 bits. A tag of the core schema says what a scalar has to be; other tags leave it a
text, but one that begins with an exclamation mark is a document's own and means nothing here.
-/

namespace PgRole.Yaml

/-- What a scalar means. -/
inductive Meaning where
  | null
  | bool (b : Bool)
  | int (i : Int)
  | float
  | text (s : String)
  deriving DecidableEq

namespace Meaning

/-- Whether a sign stands in front. -/
def startsSign (cs : List Char) : Bool := cs.head?.any fun c => c == '+' || c == '-'

/-- The characters after a sign, if there is one. -/
def withoutSign (cs : List Char) : List Char := if startsSign cs then cs.drop 1 else cs

/-- The characters after a plus sign, if there is one. -/
def withoutPlus (cs : List Char) : List Char := if cs.head? = some '+' then cs.drop 1 else cs

/-- Whether it is more than one digit, the first of them zero, behind an optional sign. -/
def hasLeadingZero (cs : List Char) : Bool :=
  let ds := withoutSign cs
  1 < ds.length && ds.head? == some '0' && ds.all Text.isDigit

/-- The number of digits in the base that is named in front. -/
def based? : List Char → Option Nat
  | '0' :: 'x' :: r => Text.readBase? Text.hexVal? 16 r
  | '0' :: 'o' :: r => Text.readBase? Text.digitVal? 8 r
  | '0' :: 'b' :: r => Text.readBase? Text.digitVal? 2 r
  | _ => none

/-- The number of digits in the base that is named in front, or ten. -/
def magnitude? (cs : List Char) : Option Nat := (based? cs).or (Text.readNat? cs)

/-- The integer that a text writes, of 128 bits with or without a sign. -/
def int? (cs : List Char) : Option Int :=
  if hasLeadingZero cs then none
  else
    match cs with
    | '-' :: r => (magnitude? r).bind fun n => if n ≤ 2 ^ 127 then some (-(n : Int)) else none
    | cs => (magnitude? (withoutPlus cs)).bind fun n => if n < 2 ^ 128 then some (n : Int) else none

/-- The names of infinity and of what is not a number, and the finite numbers. -/
def isFloat (cs : List Char) : Bool :=
  let infinities := [".inf", ".Inf", ".INF"].map String.toList
  if hasLeadingZero cs then false
  else if infinities.contains (withoutSign cs) then true
  else if [".nan", ".NaN", ".NAN"].map String.toList |>.contains cs then true
  else if cs.head? == some '+' && startsSign (cs.drop 1) then false
  else (Binary.ofText? (String.ofList cs)).any Binary.isFinite

/-- What a plain scalar means. -/
def ofPlain (s : String) : Meaning :=
  if ["", "~", "null", "Null", "NULL"].contains s then .null
  else if ["true", "True", "TRUE"].contains s then .bool true
  else if ["false", "False", "FALSE"].contains s then .bool false
  else
    match int? s.toList with
    | some i => .int i
    | none => if isFloat s.toList then .float else .text s

/-- Whether a tag is a document's own. -/
def isLocal (tag : Bytes) : Bool :=
  tag.head? == (Bytes.ofText "!").head? && (Bytes.text? (tag.drop 1)).isSome

/-- The tag of the core schema for a kind of value. -/
def coreTag (kind : String) : Bytes := Bytes.ofText ("tag:yaml.org,2002:" ++ kind)

/-- A meaning that has to be of a kind. -/
def required (m : Meaning) (kind : Meaning → Bool) : Option Meaning :=
  if kind m then some m else none

/-- What a scalar with a tag means. -/
def ofTagged (tag : Bytes) (s : String) : Option Meaning :=
  if isLocal tag then none
  else if tag = coreTag "null" then (ofPlain s).required (· == .null)
  else if tag = coreTag "bool" then
    (ofPlain s).required fun m => m == .bool true || m == .bool false
  else if tag = coreTag "int" then (int? s.toList).map .int
  else if tag = coreTag "float" then if isFloat s.toList then some .float else none
  else some (.text s)

/-- What a scalar means. -/
def ofScalar (tag : Option Bytes) (plain : Bool) (s : String) : Option Meaning :=
  match tag with
  | some t => ofTagged t s
  | none => some (if plain then ofPlain s else .text s)

example : ofPlain "0x1F" = .int 31 := by decide +kernel
example : ofPlain "-0" = .int 0 := by decide +kernel
example : ofPlain "007" = .text "007" := by decide +kernel
example : ofPlain "1e3" = .float := by decide +kernel
example : ofPlain "5_432" = .text "5_432" := by decide +kernel

end Meaning

end PgRole.Yaml
