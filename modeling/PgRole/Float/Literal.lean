import PgRole.Float.Rounding
import PgRole.Text.Digits

/-!
# Floating-point numbers from text

Two ways from decimal digits to a binary number. `Binary.ofDecimal` rounds the exact value once;
`Binary.ofText?` reads with it the texts that a caller may give for a float: a sign, then digits
with an optional point and exponent, or a name of infinity or NaN in any case. `Binary.scaled?`
takes the integer of the digits to a float first and then multiplies or divides by a power of ten,
each step rounded; it is how the numbers of a JSON text are read, and may miss the nearest float by
a unit in the last place.
-/

namespace PgRole

namespace Binary

/-- The number nearest to `±d · 10^e`. Far outside the range of 64 bits the answer is known without
the power. -/
def ofDecimal (negative : Bool) (d : Nat) (e : Int) : Binary64 :=
  if d = 0 then zero negative
  else
    let size : Int := e + (Text.decimal d).length
    if 400 < size then infinity negative
    else if size < -400 then zero negative
    else ofRatio negative (d * 10 ^ e.toNat) (10 ^ (-e).toNat)

/-- The float of a power of ten. -/
def powerOfTen (e : Nat) : Binary64 := ofRatio false (10 ^ e) 1

/-- `x · 10^e` by steps of at most 308 decimal places, each rounded; `none` past the greatest finite
number. -/
def scaled? (x : Binary64) (e : Int) : Option Binary64 :=
  if e.natAbs ≤ 308 then
    if 0 ≤ e then
      let y := x.mul (powerOfTen e.natAbs)
      if y.isFinite then some y else none
    else some (x.div (powerOfTen e.natAbs))
  else if x.isZero then some x
  else if 0 ≤ e then none
  else scaled? (x.div (powerOfTen 308)) (e + 308)
termination_by e.natAbs
decreasing_by omega

/-- The digits in front and those after them. -/
def spanDigits (cs : List Char) : List Char × List Char := cs.span Text.isDigit

/-- The exponent of a literal: its letter, an optional sign and one or more digits; no exponent at
all is zero. -/
def readExponent? : List Char → Option Int
  | [] => some 0
  | c :: r => if c = 'e' ∨ c = 'E' then Text.readInt? r else none

/-- Digits with an optional point, at least one digit on either side of it, and an exponent. -/
def readMagnitude? (negative : Bool) (cs : List Char) : Option Binary64 :=
  let (whole, r) := spanDigits cs
  let (fraction, r) :=
    match r with
    | '.' :: r' => spanDigits r'
    | _ => ([], r)
  if whole.isEmpty && fraction.isEmpty then none
  else (readExponent? r).map fun e =>
    ofDecimal negative (Text.valueOf (whole ++ fraction)) (e - fraction.length)

/-- The name of an infinity or NaN, in any case. -/
def readName? (negative : Bool) (cs : List Char) : Option Binary64 :=
  let name := cs.map Char.toLower
  if name = "inf".toList ∨ name = "infinity".toList then some (infinity negative)
  else if name = "nan".toList then some (nan negative)
  else none

/-- The number that follows a sign. -/
def readUnsigned? (negative : Bool) (cs : List Char) : Option Binary64 :=
  (readMagnitude? negative cs).or (readName? negative cs)

/-- The number a text gives, rounded once. -/
def ofText? (s : String) : Option Binary64 :=
  match s.toList with
  | '-' :: r => readUnsigned? true r
  | '+' :: r => readUnsigned? false r
  | cs => readUnsigned? false cs

example : ofText? "5." = some (ofInt 5) := by decide +kernel
example : ofText? "." = none := by decide +kernel
example : ofText? "-iNf" = some (infinity true) := by decide +kernel
example : ofDecimal false 1 (-50) = ⟨0x358dee7a4ad4b81f#64⟩ := by decide +kernel
example : scaled? (ofInt 1) (-50) = some ⟨0x358dee7a4ad4b81e#64⟩ := by decide +kernel

end Binary

end PgRole
