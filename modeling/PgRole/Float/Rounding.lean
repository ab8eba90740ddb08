import PgRole.Float.Basic

/-!
# Rounding to a binary format

`Binary.ofRatio` rounds an exact ratio to the nearest number of a format, a half to the even
significand, and past the greatest finite number to infinity. Conversion between formats, the
product and the quotient are the exact result rounded once.
-/

namespace PgRole

/-- The integer nearest to `n / d`, a half to the even one. -/
def divHalfEven (n d : Nat) : Nat :=
  let k := n / d
  let r := n % d
  if 2 * r < d then k
  else if d < 2 * r then k + 1
  else if k % 2 = 0 then k else k + 1

namespace Binary

variable {f : Format}

/-- The numerator and denominator of `n / d` in units of `2^q`. -/
def inUnits (n d : Nat) (q : Int) : Nat × Nat := (n * 2 ^ (-q).toNat, d * 2 ^ q.toNat)

/-- The exponent of the unit in the last place for a ratio: the least at which the significand
keeps within its length. -/
def unitExponent (f : Format) (n d : Nat) : Int :=
  let q := max f.minExponent ((n.log2 : Int) - d.log2 - f.fracBits - 1)
  let (a, b) := inUnits n d q
  if a / b < 2 ^ (f.fracBits + 1) then q else q + 1

/-- The number nearest to `±n / d`, for a denominator that is not zero. -/
def ofRatio (negative : Bool) (n d : Nat) : Binary f :=
  if n = 0 then zero negative
  else
    let q := unitExponent f n d
    let (a, b) := inUnits n d q
    ofCode negative (min f.infinityCode (f.code (divHalfEven a b) q))

/-- The number nearest to an integer; zero is positive. -/
def ofInt (i : Int) : Binary f := ofRatio (decide (i < 0)) i.natAbs 1

/-- The nearest number of another format. -/
def convert (f : Format) {g : Format} (x : Binary g) : Binary f :=
  if x.isNaN then nan x.negative
  else if x.isInfinite then infinity x.negative
  else ofRatio x.negative x.num x.den

/-- The nearest number to a product of finite numbers. -/
def mul (x y : Binary f) : Binary f :=
  ofRatio (x.negative != y.negative) (x.num * y.num) (x.den * y.den)

/-- The nearest number to a quotient of finite numbers whose divisor is not zero. -/
def div (x y : Binary f) : Binary f :=
  ofRatio (x.negative != y.negative) (x.num * y.den) (x.den * y.num)

example : (ofInt 1 : Binary64) = ⟨0x3ff0000000000000#64⟩ := by decide +kernel
example : (ofRatio true 1 10 : Binary64) = ⟨0xbfb999999999999a#64⟩ := by decide +kernel
example : (ofInt (2 ^ 53 + 1) : Binary64).toInt? = some (2 ^ 53) := by decide +kernel
example : convert .single (ofRatio false 1 10 : Binary64) = ⟨0x3dcccccd#32⟩ := by decide +kernel
example : (ofRatio false (10 ^ 400) 1 : Binary64) = infinity false := by decide +kernel
example : (ofRatio false 1 (10 ^ 400) : Binary64) = zero false := by decide +kernel

end Binary

end PgRole
