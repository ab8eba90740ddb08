import Mathlib.Data.Rat.Cast.Order
import Mathlib.Tactic.FieldSimp
import PgRole.Proofs.Float

/-!
# The value of a floating-point number

A finite number equals one rational, `toRat`.

* `toInt?_eq_some_iff`: the integer read off a number is its value, and there is one whenever the
  value is an integer.
* `magnitude_lt_iff`: the bits below the sign are in the order of the distances from zero, so that a
  comparison of bits is one of values.
* `le_magnitude_ofInt`: an unsigned integer of 64 bits beyond the signed ones is not rounded back
  into their range.
-/

namespace PgRole.Binary

variable {f : Format}

/-- How far a finite number is from zero. -/
def distance (x : Binary f) : Rat := x.num / x.den

/-- The rational that a finite number equals. -/
def toRat (x : Binary f) : Rat := if x.negative then -x.distance else x.distance

theorem distance_nonneg (x : Binary f) : 0 ≤ x.distance :=
  div_nonneg (Nat.cast_nonneg _) (Nat.cast_nonneg _)

/-! ## Integers -/

theorem distance_eq_natCast_iff (x : Binary f) (n : Nat) : x.distance = n ↔ x.num = n * x.den := by
  have hden : (x.den : Rat) ≠ 0 := Nat.cast_ne_zero.2 (Nat.pos_iff_ne_zero.1 x.den_pos)
  rw [distance, div_eq_iff hden]
  exact_mod_cast Iff.rfl

/-- A number is an integer just if it is as far from zero and has its sign. -/
theorem toRat_eq_intCast_iff (x : Binary f) (i : Int) :
    x.toRat = i ↔
      x.distance = i.natAbs ∧ i = if x.negative then -(i.natAbs : Int) else i.natAbs := by
  have hnonneg := x.distance_nonneg
  have habs : ((i.natAbs : Nat) : Rat) = |(i : Rat)| := by
    rw [Nat.cast_natAbs, Int.cast_abs]
  rw [toRat, habs]
  constructor
  · intro h
    split at h
    · have hi : (i : Rat) ≤ 0 := by rw [← h]; exact neg_nonpos.2 hnonneg
      have hi' : i ≤ 0 := by exact_mod_cast hi
      rw [if_pos ‹_›, abs_of_nonpos hi, ← h, neg_neg]
      exact ⟨rfl, by omega⟩
    · have hi : 0 ≤ (i : Rat) := h ▸ hnonneg
      have hi' : 0 ≤ i := by exact_mod_cast hi
      rw [if_neg ‹_›, abs_of_nonneg hi, ← h]
      exact ⟨rfl, by omega⟩
  · rintro ⟨h, hsign⟩
    split at hsign
    · have hi : i ≤ 0 := by omega
      rw [if_pos ‹_›, h, abs_of_nonpos (by exact_mod_cast hi), neg_neg]
    · have hi : 0 ≤ i := by omega
      rw [if_neg ‹_›, h, abs_of_nonneg (by exact_mod_cast hi)]

/-- The integer that a number gives is its value. -/
theorem toInt?_eq_some_iff {x : Binary f} {i : Int} :
    x.toInt? = some i ↔ x.isFinite ∧ x.toRat = i := by
  rw [toRat_eq_intCast_iff, distance_eq_natCast_iff]
  have hpos := x.den_pos
  have hcast : (x.num : Int) / x.den = (x.num / x.den : Nat) := (Int.natCast_div ..).symm
  unfold toInt?
  dsimp only
  rw [hcast]
  constructor
  · intro h
    split at h
    · rename_i hwhole
      obtain ⟨hfinite, hmod⟩ := Bool.and_eq_true_iff.1 hwhole
      -- no remainder, so the quotient times the denominator is the numerator
      have hexact : x.num / x.den * x.den = x.num :=
        Nat.div_mul_cancel (Nat.dvd_of_mod_eq_zero (beq_iff_eq.1 hmod))
      have hi := Option.some.inj h
      have habs : i.natAbs = x.num / x.den := by
        rw [← hi]
        split
        · rw [Int.natAbs_neg, Int.natAbs_natCast]
        · rw [Int.natAbs_natCast]
      refine ⟨hfinite, by rw [habs, hexact], ?_⟩
      rw [habs, hi]
    · cases h
  · rintro ⟨hfinite, hnum, hsign⟩
    have hmod : (x.num % x.den == 0) = true := by
      rw [beq_iff_eq, hnum, Nat.mul_mod_left]
    have hdiv : x.num / x.den = i.natAbs := by rw [hnum, Nat.mul_div_cancel _ hpos]
    rw [if_pos (Bool.and_eq_true_iff.2 ⟨hfinite, hmod⟩), hdiv, ← hsign]

/-! ## Order -/

/-- Numbers are ordered as their magnitudes, here as ratios that are multiplied out. -/
theorem num_mul_den_lt {x y : Binary f} (h : x.magnitude < y.magnitude) :
    x.num * y.den < y.num * x.den := by
  have hx := x.code_significand_exponent
  have hy := y.code_significand_exponent
  have hdiv := Nat.div_le_div_right (c := 2 ^ f.fracBits) (Nat.le_of_lt h)
  have hle : x.exponent ≤ y.exponent := by
    unfold exponent
    omega
  rcases Int.lt_or_eq_of_le hle with hlt | heq
  · -- the greater exponent makes up for any significand, which is of full length there
    have hleast := x.minExponent_le_exponent
    have hfull : 2 ^ f.fracBits ≤ y.significand := by
      rcases y.le_significand_or with hfull | ⟨-, hy⟩
      · exact hfull
      · omega
    obtain ⟨k, hk⟩ : ∃ k : Nat, y.exponent = x.exponent + ((k + 1 : Nat) : Int) :=
      ⟨(y.exponent - x.exponent - 1).toNat, by omega⟩
    have hpowers := two_pow_toNat hk
    have hcommon : 0 < 2 ^ x.exponent.toNat * 2 ^ (-y.exponent).toNat :=
      Nat.mul_pos (Nat.two_pow_pos _) (Nat.two_pow_pos _)
    have hsignificands : x.significand < y.significand * 2 ^ (k + 1) := by
      calc x.significand < 2 ^ (f.fracBits + 1) := x.significand_lt
        _ = 2 ^ f.fracBits * 2 := Nat.pow_succ ..
        _ ≤ y.significand * 2 ^ (k + 1) :=
          Nat.mul_le_mul hfull (Nat.le_self_pow (Nat.succ_ne_zero k) 2)
    calc x.num * y.den
        = x.significand * (2 ^ x.exponent.toNat * 2 ^ (-y.exponent).toNat) := by
          rw [num, den]
          ring
      _ < y.significand * 2 ^ (k + 1) * (2 ^ x.exponent.toNat * 2 ^ (-y.exponent).toNat) :=
          Nat.mul_lt_mul_of_pos_right hsignificands hcommon
      _ = y.significand * (2 ^ (k + 1) * 2 ^ x.exponent.toNat * 2 ^ (-y.exponent).toNat) := by ring
      _ = y.num * x.den := by
          rw [← hpowers, num, den]
          ring
  · have hsignificands : x.significand < y.significand := by
      rw [← hx, ← hy, Format.code, Format.code, heq] at h
      omega
    rw [num, num, den, den, heq]
    exact Nat.mul_lt_mul_of_pos_right
      (Nat.mul_lt_mul_of_pos_right hsignificands (Nat.two_pow_pos _)) (Nat.two_pow_pos _)

theorem distance_lt_of_magnitude_lt {x y : Binary f} (h : x.magnitude < y.magnitude) :
    x.distance < y.distance := by
  have hx : (0 : Rat) < x.den := Nat.cast_pos.2 x.den_pos
  have hy : (0 : Rat) < y.den := Nat.cast_pos.2 y.den_pos
  rw [distance, distance, div_lt_div_iff₀ hx hy]
  exact_mod_cast num_mul_den_lt h

theorem distance_eq_of_magnitude_eq {x y : Binary f} (h : x.magnitude = y.magnitude) :
    x.distance = y.distance := by
  unfold distance num den significand exponent
  rw [h]

/-- The bits below the sign are in the order of the distances from zero. -/
theorem magnitude_lt_iff {x y : Binary f} :
    x.magnitude < y.magnitude ↔ x.distance < y.distance := by
  constructor
  · exact distance_lt_of_magnitude_lt
  · intro h
    rcases Nat.lt_trichotomy x.magnitude y.magnitude with hlt | heq | hgt
    · exact hlt
    · exact absurd h (distance_eq_of_magnitude_eq heq).not_lt
    · exact absurd h (distance_lt_of_magnitude_lt hgt).not_gt

/-! ## Large integers -/

/-- The unit in the last place of an integer of 64 bits with the highest bit set. -/
theorem unitExponent_large {n : Nat} (hleast : 2 ^ 63 ≤ n) (hgreatest : n < 2 ^ 64) :
    unitExponent .double n 1 = 11 := by
  have hlog : n.log2 = 63 := (Nat.log2_eq_iff (by omega)).2 ⟨hleast, hgreatest⟩
  have hestimate : max Format.double.minExponent
      ((n.log2 : Int) - (1 : Nat).log2 - Format.double.fracBits - 1) = 10 := by
    rw [hlog]
    decide
  rw [unitExponent, hestimate]
  dsimp only [inUnits]
  have hlong : ¬ n * 2 ^ (-10 : Int).toNat / (1 * 2 ^ (10 : Int).toNat) <
      2 ^ (Format.double.fracBits + 1) := by
    have hten : (-10 : Int).toNat = 0 ∧ (10 : Int).toNat = 10 := ⟨rfl, rfl⟩
    have hbits : Format.double.fracBits = 52 := rfl
    rw [hten.1, hten.2, hbits]
    omega
  rw [if_neg hlong]
  rfl

theorem div_le_divHalfEven (n d : Nat) : n / d ≤ divHalfEven n d := by
  unfold divHalfEven
  dsimp only
  split_ifs <;> omega

/-- An integer of 64 bits with the highest bit set is not rounded below the power of two that the
bit stands for. -/
theorem le_magnitude_ofInt {i : Int} (hleast : 2 ^ 63 ≤ i) (hgreatest : i < 2 ^ 64) :
    1086 * 2 ^ 52 ≤ (ofInt i : Binary64).magnitude := by
  have hn : 2 ^ 63 ≤ i.natAbs ∧ i.natAbs < 2 ^ 64 := by omega
  have hunits : inUnits i.natAbs 1 11 = (i.natAbs, 2 ^ 11) := by simp [inUnits]
  have hrounded : 2 ^ 52 ≤ divHalfEven i.natAbs (2 ^ 11) :=
    le_trans (by omega) (div_le_divHalfEven _ _)
  have hcode : 1086 * 2 ^ 52 ≤ Format.double.code (divHalfEven i.natAbs (2 ^ 11)) 11 := by
    have hplace : ((11 : Int) - Format.double.minExponent).toNat = 1085 := by decide
    rw [Format.code, hplace]
    simp only [Format.double]
    omega
  rw [ofInt, ofRatio, if_neg (by omega), unitExponent_large hn.1 hn.2]
  dsimp only
  rw [hunits, magnitude_ofCode]
  · exact le_min (by decide) hcode
  · exact Nat.lt_of_le_of_lt (Nat.min_le_left ..) (by decide)

end PgRole.Binary
