import PgRole.Power
import PgRole.Text.Digits

/-!
# Decimals

A decimal number is a sign, a mantissa of at most 96 bits and a number of places; `12.50` and
`12.5` are two decimals of one value. The text of a decimal shows all its places.
-/

namespace PgRole

/-- `±mantissa · 10^-scale`. -/
structure Decimal where
  negative : Bool
  mantissa : Nat
  scale : Nat
  fits : mantissa < 2 ^ 96
  deriving DecidableEq

namespace Decimal

/-- One more than the greatest mantissa. -/
def limit : Nat := 2 ^ 96

/-- The most places that a text can give. -/
def maxScale : Nat := 28

/-- The decimal of parts, if the mantissa fits. -/
def ofParts? (negative : Bool) (mantissa scale : Nat) : Option Decimal :=
  if h : mantissa < 2 ^ 96 then some ⟨negative, mantissa, scale, h⟩ else none

/-- The decimal of parts, if the mantissa fits; zero has no sign. -/
def unsignedZero? (negative : Bool) (mantissa scale : Nat) : Option Decimal :=
  ofParts? (negative && mantissa != 0) mantissa scale

/-- The digits of a decimal, at least one before the point. -/
def digits (d : Decimal) : List Char := Text.decimalPadded (d.scale + 1) d.mantissa

/-- The text of the distance from zero. -/
def magnitudeText (d : Decimal) : List Char :=
  let ds := d.digits
  let n := ds.length - d.scale
  if d.scale = 0 then ds else ds.take n ++ '.' :: ds.drop n

/-- The text of a decimal. -/
def text (d : Decimal) : String :=
  String.ofList (if d.negative then '-' :: d.magnitudeText else d.magnitudeText)

example : (ofParts? false 1250 2).map text = some "12.50" := by decide +kernel
example : (ofParts? true 5 3).map text = some "-0.005" := by decide +kernel

end Decimal

end PgRole
