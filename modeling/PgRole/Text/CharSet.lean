/-!
# Sets of characters by ranges of code points

A character property of the Unicode standard is a finite union of ranges of code points. A
`CharSet` is such a union; the modules beside this one hold the properties the library uses, one
table each.
-/

namespace PgRole.Text

/-- A union of closed ranges of code points. -/
structure CharSet where
  ranges : List (Nat × Nat)

namespace CharSet

/-- Whether a character lies in one of the ranges. -/
def contains (s : CharSet) (c : Char) : Bool :=
  s.ranges.any fun r => decide (r.1 ≤ c.toNat) && decide (c.toNat ≤ r.2)

theorem contains_iff {s : CharSet} {c : Char} :
    s.contains c = true ↔ ∃ r ∈ s.ranges, r.1 ≤ c.toNat ∧ c.toNat ≤ r.2 := by
  simp [contains]

end CharSet

end PgRole.Text
