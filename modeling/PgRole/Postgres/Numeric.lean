import PgRole.Attempt
import PgRole.Bytes
import PgRole.Decimal.Arithmetic

/-!
# Numeric values in binary form

A numeric value travels as digits to the base 10000 with the weight of the first, a sign and a
number of places. `Numeric.encode` writes a decimal without zero digits at either end;
`Numeric.decode` adds the digits up by their weights and brings the sum to the places given. A digit
that its weight makes too great, and octets that end too soon, are a panic; else what is no decimal
is refused.
-/

namespace PgRole.Postgres.Numeric

open Attempt

/-- The base of the digits. -/
def base : Nat := 10000

/-- The digits of a number, most significant first; none for zero. -/
def digitsOnto (n : Nat) (acc : List Nat) : List Nat :=
  if n = 0 then acc else digitsOnto (n / base) (n % base :: acc)
termination_by n
decreasing_by exact Nat.div_lt_self (by omega) (by decide)

/-- The digits of a number without zeros at the end. -/
def significant (ds : List Nat) : List Nat := (ds.reverse.dropWhile (· = 0)).reverse

/-- The mark of a positive number. -/
def positiveMark : Nat := 0

/-- The mark of a negative number. -/
def negativeMark : Nat := 0x4000

/-- The mark of what is not a number. -/
def nanMark : Nat := 0xC000

/-- A decimal in binary form. -/
def encode (d : Decimal) : Bytes :=
  if d.mantissa = 0 then List.replicate 8 0
  else
    let ds := digitsOnto (d.mantissa * 10 ^ ((4 - d.scale % 4) % 4)) []
    let weight : Int := ds.length - ((d.scale + 3) / 4 : Nat) - 1
    let shown := significant ds
    Bytes.ofNat 2 shown.length ++ Bytes.ofInt 2 weight ++
      Bytes.ofNat 2 (if d.negative then negativeMark else positiveMark) ++
      Bytes.ofNat 2 d.scale ++ shown.flatMap (Bytes.ofNat 2)

/-- The greatest weight whose power of the base is a decimal. -/
def maxWeight : Nat := 7

/-- The value of a digit at a weight: an integer and places. -/
def part (digit weight : Int) : Reading (Int × Nat) :=
  if maxWeight < weight.natAbs then .error (.error ())
  else if digit = 0 then .ok (0, 0)
  else if 0 ≤ weight then
    let n := digit * base ^ weight.toNat
    if n.natAbs < Decimal.limit then .ok (n, 0) else .error .panic
  else .ok (digit, 4 * weight.natAbs)

/-- Adds digits from a weight on to a sum. -/
def sum : List Int → Int → Int × Nat → Reading (Int × Nat)
  | [], _, total => .ok total
  | d :: ds, weight, total => do
    let p ← part d weight
    let total ← orRefuse (Decimal.add total p)
    sum ds (weight - 1) total

/-- So many digits off the front. -/
def digits? : Nat → Bytes → Option (List Int)
  | 0, _ => some []
  | n + 1, bs => do
    let (d, bs) ← Bytes.takeInt? 2 bs
    let ds ← digits? n bs
    pure (d :: ds)

/-- The decimal of a sign, places and digits. -/
def ofDigits (negative : Bool) (scale weight : Int) (ds : List Int) : Reading Decimal :=
  if ds.isEmpty then orRefuse (Decimal.ofParts? false 0 0)
  else if scale < 0 then .error (.error ())
  else do
    let (total, s) ← sum ds weight (0, 0)
    let (m, s) := Decimal.withScale total.natAbs s scale.toNat
    orRefuse (Decimal.ofParts? negative m s)

/-- Whether a mark is that of negative numbers; none if it is no mark of numbers. -/
def isNegative? (mark : Nat) : Option Bool :=
  if mark = positiveMark then some false
  else if mark = negativeMark then some true
  else none

/-- The decimal of a binary form. -/
def decode (bs : Bytes) : Reading Decimal := do
  let (count, bs) ← orPanic (Bytes.takeNat? 2 bs)
  let (weight, bs) ← orPanic (Bytes.takeInt? 2 bs)
  let (mark, bs) ← orPanic (Bytes.takeNat? 2 bs)
  let (scale, bs) ← orPanic (Bytes.takeInt? 2 bs)
  -- what is marked as no number has no digits to be read; any other mark is looked at after them
  if mark = nanMark then .error (.error ())
  else
    let ds ← orPanic (digits? count bs)
    let negative ← orRefuse (isNegative? mark)
    ofDigits negative scale weight ds

end PgRole.Postgres.Numeric
