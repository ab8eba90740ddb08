import PgRole.Power

/-!
# Binary floating-point numbers

Numbers of the IEEE 754 interchange formats by their bits. A finite number is a sign, a
significand and an exponent, `±m · 2^q`; the pair comes out of the bits below the sign by one
division (`Binary.significand`, `Binary.exponent`), and goes back by the sum `Format.code`. Nothing
here computes with machine floats: every value is an exact integer multiple of a power of two.
-/

namespace PgRole

/-- The widths of the exponent field and of the fraction field. -/
structure Format where
  expBits : Nat
  fracBits : Nat
  deriving DecidableEq, Repr

namespace Format

/-- The format of 64 bits. -/
def double : Format := ⟨11, 52⟩

/-- The format of 32 bits. -/
def single : Format := ⟨8, 23⟩

/-- The bits below the sign. -/
def magnitudeBits (f : Format) : Nat := f.expBits + f.fracBits

/-- All bits. -/
def width (f : Format) : Nat := f.magnitudeBits + 1

/-- The exponent of the unit in the last place of the numbers next to zero. -/
def minExponent (f : Format) : Int := 2 - 2 ^ (f.expBits - 1) - f.fracBits

/-- The bits below the sign of an infinity; those of a NaN are greater. -/
def infinityCode (f : Format) : Nat := (2 ^ f.expBits - 1) * 2 ^ f.fracBits

/-- The bits below the sign of `m · 2^q`, for a significand of full length or the least exponent.
The next power of two carries into the exponent field of its own accord. -/
def code (f : Format) (m : Nat) (q : Int) : Nat := (q - f.minExponent).toNat * 2 ^ f.fracBits + m

end Format

/-- A number of a format, by its bits. -/
structure Binary (f : Format) where
  bits : BitVec f.width
  deriving DecidableEq

/-- A number of 64 bits. -/
abbrev Binary64 := Binary .double

/-- A number of 32 bits. -/
abbrev Binary32 := Binary .single

namespace Binary

variable {f : Format}

/-- The number with a sign and the bits below it. -/
def ofCode (negative : Bool) (code : Nat) : Binary f :=
  ⟨BitVec.ofNat _ ((if negative then 2 ^ f.magnitudeBits else 0) + code % 2 ^ f.magnitudeBits)⟩

/-- The number with the given bits, those beyond the width dropped. -/
def ofBits (n : Nat) : Binary f := ⟨BitVec.ofNat _ n⟩

/-- Whether the sign bit is set. -/
def negative (x : Binary f) : Bool := decide (2 ^ f.magnitudeBits ≤ x.bits.toNat)

/-- The bits below the sign. -/
def magnitude (x : Binary f) : Nat := x.bits.toNat % 2 ^ f.magnitudeBits

/-- Neither an infinity nor a NaN. -/
def isFinite (x : Binary f) : Bool := decide (x.magnitude < f.infinityCode)

/-- Not a number. -/
def isNaN (x : Binary f) : Bool := decide (f.infinityCode < x.magnitude)

/-- An infinity of either sign. -/
def isInfinite (x : Binary f) : Bool := x.magnitude == f.infinityCode

/-- A zero of either sign. -/
def isZero (x : Binary f) : Bool := x.magnitude == 0

/-- The significand of a finite number. -/
def significand (x : Binary f) : Nat :=
  let fraction := x.magnitude % 2 ^ f.fracBits
  if x.magnitude < 2 ^ f.fracBits then fraction else 2 ^ f.fracBits + fraction

/-- The exponent of a finite number's unit in the last place. -/
def exponent (x : Binary f) : Int :=
  f.minExponent + ((x.magnitude / 2 ^ f.fracBits - 1 : Nat) : Int)

/-- The numerator of a finite number's distance from zero. -/
def num (x : Binary f) : Nat := x.significand * 2 ^ x.exponent.toNat

/-- The denominator of a finite number's distance from zero, a power of two. -/
def den (x : Binary f) : Nat := 2 ^ (-x.exponent).toNat

/-- The integer that a finite number equals, if it equals one. -/
def toInt? (x : Binary f) : Option Int :=
  if x.isFinite && x.num % x.den == 0 then
    let n : Int := x.num / x.den
    some (if x.negative then -n else n)
  else none

/-- The infinity with a sign. -/
def infinity (negative : Bool) : Binary f := ofCode negative f.infinityCode

/-- The quiet NaN with a sign and no payload. -/
def nan (negative : Bool) : Binary f := ofCode negative (f.infinityCode + 2 ^ (f.fracBits - 1))

/-- The zero with a sign. -/
def zero (negative : Bool) : Binary f := ofCode negative 0

/-- The same number with the sign turned. -/
def neg (x : Binary f) : Binary f := ofCode (!x.negative) x.magnitude

end Binary

end PgRole
