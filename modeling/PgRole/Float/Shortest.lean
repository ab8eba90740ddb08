import PgRole.Float.Rounding

/-!
# Shortest decimal digits

The decimal that stands for a finite number: of the decimals that round to it those with the
fewest digits, and of these the nearest, an exact tie going to the even last digit. A decimal
rounds to the number exactly when it lies between the midpoints to the neighbours, the midpoints
included where the significand is even.
-/

namespace PgRole

/-- `digits · 10^exponent`. -/
structure Scientific where
  digits : Nat
  exponent : Int
  deriving DecidableEq, Repr

namespace Binary

variable {f : Format}

/-- A quarter of the unit in the last place: the step in which both midpoints are integers. -/
def quarterExponent (x : Binary f) : Int := x.exponent - 2

/-- The midpoint to the neighbour below in quarter units. At a power of two the neighbour below is
half as far. -/
def lowerMidpoint (x : Binary f) : Nat :=
  if x.significand = 2 ^ f.fracBits ∧ f.minExponent < x.exponent then 4 * x.significand - 1
  else 4 * x.significand - 2

/-- The midpoint to the neighbour above in quarter units. -/
def upperMidpoint (x : Binary f) : Nat := 4 * x.significand + 2

/-- Whether `d · 10^k` rounds to the number. -/
def roundsFrom (x : Binary f) (d : Nat) (k : Int) : Bool :=
  let q := x.quarterExponent
  let p := d * 10 ^ k.toNat * 2 ^ (-q).toNat
  let s := 10 ^ (-k).toNat * 2 ^ q.toNat
  if x.significand % 2 = 0 then
    decide (x.lowerMidpoint * s ≤ p) && decide (p ≤ x.upperMidpoint * s)
  else
    decide (x.lowerMidpoint * s < p) && decide (p < x.upperMidpoint * s)

/-- The multiple of `10^k` that rounds to the number and is nearest to it, if there is one. -/
def onGrid (x : Binary f) (k : Int) : Option Nat :=
  let n := x.num * 10 ^ (-k).toNat
  let d := x.den * 10 ^ k.toNat
  let below := n / d
  let first := divHalfEven n d
  let second := if first = below then below + 1 else below
  if x.roundsFrom first k then some first
  else if x.roundsFrom second k then some second
  else none

/-- The first grid with a hit, from coarse to fine. -/
def searchGrids (x : Binary f) : Nat → Int → Scientific
  | 0, k => ⟨divHalfEven (x.num * 10 ^ (-k).toNat) (x.den * 10 ^ k.toNat), k⟩
  | fuel + 1, k =>
    match x.onGrid k with
    | some d => ⟨d, k⟩
    | none => searchGrids x fuel (k - 1)

/-- A power of ten above a finite number that is not zero. -/
def gridStart (x : Binary f) : Int :=
  (((x.num.log2 : Int) - x.den.log2 + 2) * 30103).fdiv 100000 + 1

/-- The shortest decimal for the distance of a finite number from zero. -/
def shortest (x : Binary f) : Scientific :=
  if x.isZero then ⟨0, 0⟩ else x.searchGrids 24 x.gridStart

example : (ofRatio false 1 10 : Binary64).shortest = ⟨1, -1⟩ := by decide +kernel
example : (ofBits 1 : Binary64).shortest = ⟨5, -324⟩ := by decide +kernel
example : (ofRatio false 3 10 : Binary64).shortest = ⟨3, -1⟩ := by decide +kernel
example : (ofInt (2 ^ 53) : Binary64).shortest = ⟨9007199254740992, 0⟩ := by decide +kernel

end Binary

end PgRole
