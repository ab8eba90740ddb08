import PgRole.Float.Literal
import PgRole.Float.Shortest

/-!
# JSON numbers

A number is an integer from -2^63 to 2^64 - 1, kept exactly, or a finite float; `1` and `1.0` are
two values. `Literal` is a number as it is written, and `Literal.value?` reads it: an integer
without point and exponent where it fits, minus zero excepted, and otherwise a float.
-/

namespace PgRole.Json

/-- The least integer a number can be. -/
def minInt : Int := -2 ^ 63

/-- The greatest integer a number can be. -/
def maxInt : Int := 2 ^ 64 - 1

/-- An integer from -2^63 to 2^64 - 1 or a finite float. -/
inductive Number where
  | int (i : Int) (inRange : minInt ≤ i ∧ i ≤ maxInt)
  | float (x : Binary64) (finite : x.isFinite = true)
  deriving DecidableEq

namespace Number

/-- An integer within the range, if it is. -/
def ofInt? (i : Int) : Option Number :=
  if h : minInt ≤ i ∧ i ≤ maxInt then some (.int i h) else none

/-- A finite float, if it is. -/
def ofFloat? (x : Binary64) : Option Number :=
  if h : x.isFinite = true then some (.float x h) else none

/-- An unsigned integer of 64 bits. -/
def ofUInt64 (n : UInt64) : Number :=
  .int n.toNat ⟨by simp only [minInt]; omega, by have := n.toNat_lt; simp only [maxInt]; omega⟩

/-- The signed integer of 64 bits that an integer fits. -/
def toInt64? : Number → Option Int64
  | .int i _ => if i < 2 ^ 63 then some (Int64.ofInt i) else none
  | .float .. => none

/-- The unsigned integer of 64 bits that an integer fits. -/
def toUInt64? : Number → Option UInt64
  | .int i _ => if 0 ≤ i then some (UInt64.ofNat i.toNat) else none
  | .float .. => none

/-- The nearest float. -/
def toFloat : Number → Binary64
  | .int i _ => Binary.ofInt i
  | .float x _ => x

/-- The text of a finite float: the shortest digits, positional from 10^-5 to below 10^16 with at
least one place, and with a signed exponent outside. -/
def floatText (x : Binary64) : List Char :=
  let s := x.shortest
  let ds := Text.decimal s.digits
  let point : Int := ds.length + s.exponent
  let magnitude :=
    if -5 < point ∧ point ≤ 0 then
      '0' :: '.' :: List.replicate (-point).toNat '0' ++ ds
    else if 0 < point ∧ point ≤ 16 then
      let n := point.toNat
      if ds.length ≤ n then ds ++ List.replicate (n - ds.length) '0' ++ ['.', '0']
      else ds.take n ++ '.' :: ds.drop n
    else
      let e := point - 1
      let mantissa :=
        match ds with
        | d :: r@(_ :: _) => d :: '.' :: r
        | ds => ds
      mantissa ++ 'e' :: (if e < 0 then '-' else '+') :: Text.decimal e.natAbs
  if x.negative then '-' :: magnitude
  else magnitude

/-- The text of a number. -/
def text : Number → List Char
  | .int i _ => (Text.intText i).toList
  | .float x _ => if x.isZero then (if x.negative then "-0.0" else "0.0").toList else floatText x

end Number

/-- A number as it is written: sign, whole digits, digits after a point, and the exponent's sign
and digits. -/
structure Literal where
  negative : Bool
  whole : List Char
  fraction : Option (List Char)
  exponent : Option (Bool × List Char)
  deriving DecidableEq, Repr

namespace Literal

/-- The greatest integer that the digits of a float are collected in. -/
def maxDigits : Nat := 2 ^ 64 - 1

/-- Collects digits as long as the number keeps within `maxDigits`; the digits left over begin with
the one that does not fit. -/
def collect (n : Nat) : List Char → Nat × List Char
  | [] => (n, [])
  | c :: r =>
    let n' := 10 * n + (Text.digitVal? c).getD 0
    if n' ≤ maxDigits then collect n' r else (n, c :: r)

/-- The decimal exponent that a literal writes. An exponent beyond 32 bits stands for its sign
alone: it is past every float. -/
def writtenExponent (l : Literal) : Option Int :=
  match l.exponent with
  | none => some 0
  | some (neg, ds) =>
    let e := Text.valueOf ds
    if e < 2 ^ 31 then some (if neg then -(e : Int) else e) else none

/-- The literal as a float, by its first digits and a decimal exponent; `none` out of range. -/
def float? (l : Literal) : Option Binary64 :=
  let (n, spare) := collect 0 l.whole
  let (n, left) := collect n (l.fraction.getD [])
  let places : Int := spare.length - ((l.fraction.getD []).length - left.length : Nat)
  let magnitude : Option Binary64 :=
    match l.writtenExponent with
    | some e => Binary.scaled? (Binary.ofInt n) (places + e)
    | none => if n = 0 || l.exponent.any (·.1) then some (Binary.zero false) else none
  magnitude.map fun x => if l.negative then x.neg else x

/-- The number a literal denotes; `none` past the range of floats. -/
def value? (l : Literal) : Option Number :=
  let asFloat := l.float?.bind Number.ofFloat?
  if l.fraction.isNone && l.exponent.isNone then
    let n := Text.valueOf l.whole
    if l.negative then (if n = 0 then asFloat else (Number.ofInt? (-n)).or asFloat)
    else (Number.ofInt? n).or asFloat
  else asFloat

end Literal

end PgRole.Json
