import PgRole.Decimal.Basic
import PgRole.Float.Rounding

/-!
# Arithmetic on decimals

Sums and products are exact as long as the mantissa fits; if it does not, places are given up from
the right, the last one kept rounded with a half to the even digit, until it does. A number too
great without places has no decimal. `withScale` changes the number of places of a number: places
given up are cut off, the last of them rounding up from five, and places are added as long as the
mantissa fits.
-/

namespace PgRole.Decimal

/-- A mantissa and places, with places given up until the mantissa fits; `dropped` of the places
are given up first. -/
def fitFrom (mantissa : Nat) : Nat → Nat → Option (Nat × Nat)
  | dropped, 0 =>
    let m := divHalfEven mantissa (10 ^ dropped)
    if m < limit then some (m, 0) else none
  | dropped, scale + 1 =>
    let m := divHalfEven mantissa (10 ^ dropped)
    if m < limit then some (m, scale + 1) else fitFrom mantissa (dropped + 1) scale

/-- A mantissa and places with as many places as fit. -/
def fit (mantissa scale : Nat) : Option (Nat × Nat) := fitFrom mantissa 0 scale

/-- The sum of two numbers, each an integer and a number of places. -/
def add (a b : Int × Nat) : Option (Int × Nat) :=
  let scale := max a.2 b.2
  let total := a.1 * 10 ^ (scale - a.2) + b.1 * 10 ^ (scale - b.2)
  (fit total.natAbs scale).map fun (m, s) => (if total < 0 then -(m : Int) else m, s)

/-- Takes so many places off a mantissa: cuts them off and rounds up if the last one cut off, with
nothing left of it to the left of zero, is five or more. -/
def dropPlaces (mantissa : Nat) : Nat → Nat
  | 0 => mantissa
  | n + 1 =>
    let rest := mantissa / 10 ^ n
    rest / 10 + (if 5 ≤ rest % 10 then 1 else 0)

/-- Adds up to so many places as long as the mantissa fits; the mantissa and the places added. -/
def addPlaces (mantissa : Nat) : Nat → Nat × Nat
  | 0 => (mantissa, 0)
  | n + 1 =>
    if 10 * mantissa < limit then
      let (m, k) := addPlaces (10 * mantissa) n
      (m, k + 1)
    else (mantissa, 0)

/-- A mantissa with other places than it has. -/
def withScale (mantissa scale wanted : Nat) : Nat × Nat :=
  if mantissa = 0 then (0, min wanted maxScale)
  else if wanted ≤ scale then (dropPlaces mantissa (scale - wanted), wanted)
  else
    let (m, k) := addPlaces mantissa (wanted - scale)
    (m, scale + k)

example : fit (2 ^ 96) 1 = some (7922816251426433759354395034, 0) := by decide +kernel
example : withScale 12345 3 1 = (123, 1) := by decide
example : withScale 12355 3 1 = (124, 1) := by decide
example : withScale 5 0 3 = (5000, 3) := by decide

end PgRole.Decimal
