import Mathlib.Algebra.Order.Field.Power
import Mathlib.Tactic.Linarith
import Mathlib.Tactic.Positivity
import PgRole.Proofs.Float.Value

/-!
# Rounding is to a nearest number

`ofRatio_nearest`: no number of a format is nearer to a ratio than the finite number that the ratio
is rounded to. The significand is the nearest integer in units of the last place
(`divHalfEven_nearest`), and every number of the format that is not a multiple of that unit is below
all that are of full length (`unitExponent_spec`).

`isNearest_ofInt`: an integer of 64 bits, signed or not, is rounded to a nearest finite number, and
so exactly to the number that equals it if there is one; for one of at most 53 bits there is
(`exists_toRat_eq`).
-/

namespace PgRole

/-- The quotient is rounded down with no more than half left, or up with no more than half
missing. -/
theorem divHalfEven_cases (n : Nat) {d : Nat} (hd : 0 < d) :
    ∃ k r, n = k * d + r ∧ r < d ∧
      (divHalfEven n d = k ∧ 2 * r ≤ d ∨ divHalfEven n d = k + 1 ∧ d ≤ 2 * r) := by
  refine ⟨n / d, n % d, (Nat.div_add_mod' n d).symm, Nat.mod_lt n hd, ?_⟩
  unfold divHalfEven
  dsimp only
  split_ifs <;> omega

theorem divHalfEven_le (n d : Nat) : divHalfEven n d ≤ n / d + 1 := by
  unfold divHalfEven
  dsimp only
  split_ifs <;> omega

/-- No integer is nearer to a quotient. -/
theorem divHalfEven_nearest {n d : Nat} (hd : 0 < d) (k : Int) :
    |(divHalfEven n d : Int) * d - n| ≤ |k * d - n| := by
  obtain ⟨m, r, rfl, hr, hm⟩ := divHalfEven_cases n hd
  have hself : |(divHalfEven (m * d + r) d : Int) * d - (m * d + r : Nat)| = min r (d - r) := by
    rcases hm with ⟨h, hhalf⟩ | ⟨h, hhalf⟩
    · have hvalue : (m : Int) * d - (m * d + r : Nat) = -r := by push_cast; omega
      rw [h, hvalue, abs_neg, abs_of_nonneg (by omega)]
      omega
    · have hvalue : ((m + 1 : Nat) : Int) * d - (m * d + r : Nat) = d - r := by
        push_cast
        rw [Int.add_mul]
        omega
      rw [h, hvalue, abs_of_nonneg (by omega)]
      omega
  rw [hself]
  rcases le_or_gt k (m : Int) with h | h
  · have hle : k * d ≤ (m : Int) * d := Int.mul_le_mul_of_nonneg_right h (by omega)
    refine le_trans ?_ (neg_le_abs _)
    push_cast
    omega
  · have hle : ((m : Int) + 1) * d ≤ k * d := Int.mul_le_mul_of_nonneg_right h (by omega)
    rw [Int.add_mul] at hle
    refine le_trans ?_ (le_abs_self _)
    push_cast
    omega

theorem two_zpow_add {q r : Int} {k : Nat} (h : r = q + k) : (2 : Rat) ^ r = 2 ^ q * 2 ^ k := by
  rw [h, zpow_add₀ two_ne_zero, zpow_natCast]

/-- A power of two with the part of a negative exponent taken to the other side. -/
theorem two_pow_toNat_eq (q : Int) : (2 : Rat) ^ q.toNat = 2 ^ q * 2 ^ (-q).toNat := by
  rw [← two_zpow_add (r := q.toNat) (by omega), zpow_natCast]

namespace Binary

variable {f : Format}

theorem distance_eq_zpow (x : Binary f) :
    x.distance = x.significand * (2 : Rat) ^ x.exponent := by
  have hpos : (0 : Rat) < 2 ^ (-x.exponent).toNat := by positivity
  rw [distance, num, den]
  push_cast
  rw [div_eq_iff hpos.ne', two_pow_toNat_eq, mul_assoc]

/-- A ratio in units of `2^q`. -/
theorem inUnits_div {n d : Nat} (q : Int) :
    ((inUnits n d q).1 : Rat) / (inUnits n d q).2 = (n : Rat) / d / 2 ^ q := by
  have hpos : (0 : Rat) < 2 ^ (-q).toNat := by positivity
  unfold inUnits
  push_cast
  rw [two_pow_toNat_eq q, ← mul_assoc, mul_div_mul_right _ _ hpos.ne', div_div]

theorem inUnits_div_lt_iff {n d : Nat} (hd : d ≠ 0) (q : Int) (k : Nat) :
    (inUnits n d q).1 / (inUnits n d q).2 < k ↔ (n : Rat) / d / 2 ^ q < k := by
  have hpos := inUnits_snd_pos (n := n) q hd
  rw [← inUnits_div, div_lt_iff₀ (Nat.cast_pos.2 hpos), Nat.div_lt_iff_lt_mul hpos]
  exact_mod_cast Iff.rfl

/-- The lengths of numerator and denominator bound a ratio. -/
theorem log2_lt_div_lt {n d : Nat} (hn : n ≠ 0) (hd : d ≠ 0) :
    (2 : Rat) ^ ((n.log2 : Int) - d.log2 - 1) < n / d ∧
      (n : Rat) / d < 2 ^ ((n.log2 : Int) - d.log2 + 1) := by
  have hd' : (0 : Rat) < d := Nat.cast_pos.2 (Nat.pos_of_ne_zero hd)
  have hnLow : (2 : Rat) ^ n.log2 ≤ n := by exact_mod_cast Nat.log2_self_le hn
  have hnHigh : (n : Rat) < 2 ^ (n.log2 + 1) := by exact_mod_cast Nat.lt_log2_self
  have hdLow : (2 : Rat) ^ d.log2 ≤ d := by exact_mod_cast Nat.log2_self_le hd
  have hdHigh : (d : Rat) < 2 ^ (d.log2 + 1) := by exact_mod_cast Nat.lt_log2_self
  have hpowers {i : Int} {k l : Nat} (h : (l : Int) = i + k) :
      (2 : Rat) ^ i * 2 ^ k = 2 ^ l := by
    rw [← two_zpow_add h, zpow_natCast]
  constructor
  · rw [lt_div_iff₀ hd']
    calc (2 : Rat) ^ ((n.log2 : Int) - d.log2 - 1) * d
        < 2 ^ ((n.log2 : Int) - d.log2 - 1) * 2 ^ (d.log2 + 1) :=
          mul_lt_mul_of_pos_left hdHigh (by positivity)
      _ = 2 ^ n.log2 := hpowers (by omega)
      _ ≤ n := hnLow
  · rw [div_lt_iff₀ hd']
    calc (n : Rat) < 2 ^ (n.log2 + 1) := hnHigh
      _ = 2 ^ ((n.log2 : Int) - d.log2 + 1) * 2 ^ d.log2 := (hpowers (by omega)).symm
      _ ≤ 2 ^ ((n.log2 : Int) - d.log2 + 1) * d := mul_le_mul_of_nonneg_left hdLow (by positivity)

/-- The unit of a ratio keeps the significand within its length, and makes it of full length unless
it is the least unit. -/
theorem unitExponent_spec {n d : Nat} (hn : n ≠ 0) (hd : d ≠ 0) {q : Int}
    (hq : unitExponent f n d = q) :
    f.minExponent ≤ q ∧ (n : Rat) / d / 2 ^ q < 2 ^ (f.fracBits + 1) ∧
      (q = f.minExponent ∨ 2 ^ f.fracBits ≤ (n : Rat) / d / 2 ^ q) := by
  obtain ⟨hlow, hhigh⟩ := log2_lt_div_lt hn hd
  unfold unitExponent at hq
  generalize he : (n.log2 : Int) - d.log2 - f.fracBits - 1 = e at hq
  generalize hq₀ : max f.minExponent e = q₀ at hq
  have htest := inUnits_div_lt_iff (n := n) hd q₀ (2 ^ (f.fracBits + 1))
  push_cast at htest
  generalize (n : Rat) / d = x at hlow hhigh htest ⊢
  have hpos (i : Int) : (0 : Rat) < 2 ^ i := by positivity
  dsimp only at hq
  -- the guess from the logarithms is right or one too small
  split at hq
  · rename_i hfits
    subst hq
    refine ⟨by omega, htest.1 hfits, ?_⟩
    by_cases hleast : q₀ = f.minExponent
    · exact .inl hleast
    · right
      have hfull : (2 : Rat) ^ ((n.log2 : Int) - d.log2 - 1) = 2 ^ q₀ * 2 ^ f.fracBits :=
        two_zpow_add (by omega)
      rw [le_div_iff₀ (hpos _), mul_comm, ← hfull]
      exact hlow.le
  · rename_i hlong
    subst hq
    rw [htest, not_lt, le_div_iff₀ (hpos _)] at hlong
    have hdouble : (2 : Rat) ^ (q₀ + 1) = 2 ^ q₀ * 2 := zpow_add_one₀ two_ne_zero q₀
    have hwithin : (2 : Rat) ^ ((n.log2 : Int) - d.log2 + 1) ≤
        2 ^ (f.fracBits + 1) * 2 ^ (q₀ + 1) := by
      rw [mul_comm, ← two_zpow_add rfl]
      exact zpow_le_zpow_right₀ one_le_two (by omega)
    refine ⟨by omega, ?_, .inr ?_⟩
    · rw [div_lt_iff₀ (hpos _)]
      exact hhigh.trans_le hwithin
    · rw [le_div_iff₀ (hpos _), hdouble]
      rw [pow_succ] at hlong
      linarith

/-! ## Values of bits -/

/-- The bits of `m · 2^q` are those of the number with that value, also where the significand has
grown by one place. -/
theorem distance_ofCode {negative : Bool} {m : Nat} {q : Int} (hq : f.minExponent ≤ q)
    (hlong : m ≤ 2 ^ (f.fracBits + 1)) (hfull : q = f.minExponent ∨ 2 ^ f.fracBits ≤ m)
    (hfits : f.code m q < f.infinityCode) :
    (ofCode negative (f.code m q) : Binary f).distance = m * 2 ^ q := by
  have hmagnitude : (ofCode negative (f.code m q) : Binary f).magnitude = f.code m q :=
    magnitude_ofCode (hfits.trans f.infinityCode_lt)
  -- a number with the bits of a full significand
  have hparts {m' : Nat} {q' : Int} (hm' : 2 ^ f.fracBits ≤ m')
      (hlong' : m' < 2 ^ (f.fracBits + 1)) (hq' : f.minExponent ≤ q')
      (hcode : f.code m' q' = f.code m q) :
      (ofCode negative (f.code m q) : Binary f).distance = m' * 2 ^ q' := by
    obtain ⟨x, -, -, hsignificand, hexponent⟩ :=
      parts_ofCode negative hm' hlong' hq' (hcode ▸ hfits)
    have hx : x.magnitude = f.code m q := by
      rw [← hcode, ← hsignificand, ← hexponent, code_significand_exponent]
    rw [distance_eq_of_magnitude_eq (hmagnitude.trans hx.symm), distance_eq_zpow, hsignificand,
      hexponent]
  rcases hlong.lt_or_eq with hlt | rfl
  · rcases Nat.lt_or_ge m (2 ^ f.fracBits) with hshort | hm
    · obtain rfl : q = f.minExponent := hfull.resolve_right (by omega)
      have hcode : f.code m f.minExponent = m := by simp [Format.code]
      have hlt : (ofCode negative (f.code m f.minExponent) : Binary f).magnitude <
          2 ^ f.fracBits := by rwa [hmagnitude, hcode]
      have hexponent : (ofCode negative (f.code m f.minExponent) : Binary f).exponent =
          f.minExponent := by
        rw [exponent, Nat.div_eq_of_lt hlt]
        omega
      rw [distance_eq_zpow, significand_of_lt hlt, hexponent, hmagnitude, hcode]
    · exact hparts hm hlt hq rfl
  · have hcode : f.code (2 ^ f.fracBits) (q + 1) = f.code (2 ^ (f.fracBits + 1)) q := by
      have hplace : (q + 1 - f.minExponent).toNat = (q - f.minExponent).toNat + 1 := by omega
      rw [Format.code, Format.code, hplace, Nat.add_mul, Nat.pow_succ]
      omega
    rw [hparts le_rfl (Nat.pow_lt_pow_right (by decide) (by omega)) (by omega) hcode,
      zpow_add_one₀ two_ne_zero]
    push_cast
    ring

/-- A ratio in its unit, rounded, is no longer than a significand and the power of two behind it,
and of full length unless the unit is the least. -/
theorem divHalfEven_inUnits {n d : Nat} (hn : n ≠ 0) (hd : d ≠ 0) {q : Int}
    (hq : unitExponent f n d = q) :
    divHalfEven (inUnits n d q).1 (inUnits n d q).2 ≤ 2 ^ (f.fracBits + 1) ∧
      (q = f.minExponent ∨
        2 ^ f.fracBits ≤ divHalfEven (inUnits n d q).1 (inUnits n d q).2) := by
  obtain ⟨-, hlong, hfull⟩ := unitExponent_spec hn hd hq
  have hlt (k : Nat) := inUnits_div_lt_iff (n := n) hd q k
  have hup := divHalfEven_le (inUnits n d q).1 (inUnits n d q).2
  have hdown := div_le_divHalfEven (inUnits n d q).1 (inUnits n d q).2
  constructor
  · have := (hlt (2 ^ (f.fracBits + 1))).2 (by push_cast; exact hlong)
    omega
  · refine hfull.imp_right fun h => ?_
    have := mt (hlt (2 ^ f.fracBits)).1 (by push_cast; exact not_lt.2 h)
    omega

theorem negative_ofRatio (negative : Bool) (n d : Nat) :
    (ofRatio negative n d : Binary f).negative = negative := by
  unfold ofRatio
  split
  · exact negative_ofCode (Nat.two_pow_pos _)
  · exact negative_ofCode ((Nat.min_le_left ..).trans_lt f.infinityCode_lt)

/-- A ratio is rounded to a finite number just if it is not rounded up to the code of infinity. -/
theorem isFinite_ofRatio_iff {negative : Bool} {n d : Nat} (hn : n ≠ 0) {q : Int}
    (hq : unitExponent f n d = q) :
    (ofRatio negative n d : Binary f).isFinite ↔
      f.code (divHalfEven (inUnits n d q).1 (inUnits n d q).2) q < f.infinityCode := by
  rw [ofRatio, if_neg hn, hq]
  dsimp only
  rw [isFinite, magnitude_ofCode ((Nat.min_le_left ..).trans_lt f.infinityCode_lt),
    decide_eq_true_eq]
  omega

/-- A ratio is rounded to the nearest integer in units of its last place. -/
theorem distance_ofRatio {negative : Bool} {n d : Nat} (hn : n ≠ 0) (hd : d ≠ 0) {q : Int}
    (hq : unitExponent f n d = q) (hfinite : (ofRatio negative n d : Binary f).isFinite) :
    (ofRatio negative n d : Binary f).distance =
      (divHalfEven (inUnits n d q).1 (inUnits n d q).2 : Rat) * 2 ^ q := by
  obtain ⟨hleast, -, -⟩ := unitExponent_spec hn hd hq
  obtain ⟨hlong, hfull⟩ := divHalfEven_inUnits hn hd hq
  have hcode := (isFinite_ofRatio_iff hn hq).1 hfinite
  rw [ofRatio, if_neg hn, hq]
  dsimp only
  rw [Nat.min_eq_right hcode.le]
  exact distance_ofCode hleast hlong hfull hcode

/-- No multiple of the unit in its last place is nearer to a ratio than what it is rounded to. -/
theorem ofRatio_nearest_multiple {negative : Bool} {n d : Nat} (hn : n ≠ 0) (hd : d ≠ 0) {q : Int}
    (hq : unitExponent f n d = q) (hfinite : (ofRatio negative n d : Binary f).isFinite) (k : Int) :
    |(ofRatio negative n d : Binary f).distance - n / d| ≤ |(k : Rat) * 2 ^ q - n / d| := by
  have hpos : (0 : Rat) < 2 ^ q := by positivity
  have hden := inUnits_snd_pos (n := n) q hd
  have hunits := inUnits_div (n := n) (d := d) q
  have hnearest := divHalfEven_nearest (n := (inUnits n d q).1) hden k
  rw [distance_ofRatio hn hd hq hfinite]
  generalize (inUnits n d q).1 = a at hunits hnearest ⊢
  generalize (inUnits n d q).2 = b at hden hunits hnearest ⊢
  have hden : (0 : Rat) < b := Nat.cast_pos.2 hden
  have hvalue : (n : Rat) / d = a * (2 ^ q / b) := by
    rw [eq_div_iff hpos.ne'] at hunits
    rw [← hunits]
    ring
  have hscale (k : Int) :
      |(k : Rat) * 2 ^ q - n / d| = ((|k * b - a| : Int) : Rat) * (2 ^ q / b) := by
    have hdifference : (k : Rat) * 2 ^ q - n / d = (k * b - a) * (2 ^ q / b) := by
      rw [hvalue, sub_mul, mul_assoc, mul_div_cancel₀ _ hden.ne']
    rw [hdifference, abs_mul, abs_of_pos (div_pos hpos hden)]
    push_cast
    rfl
  have hself := hscale (divHalfEven a b)
  rw [Int.cast_natCast] at hself
  rw [hself, hscale]
  exact mul_le_mul_of_nonneg_right (by exact_mod_cast hnearest) (div_pos hpos hden).le

/-- A number with no smaller unit is a multiple of the unit. -/
theorem exists_distance_eq {y : Binary f} {q : Int} (h : q ≤ y.exponent) :
    ∃ k : Int, y.distance = k * 2 ^ q := by
  refine ⟨(y.significand * 2 ^ (y.exponent - q).toNat : Nat), ?_⟩
  have hpowers : (2 : Rat) ^ y.exponent = 2 ^ q * 2 ^ (y.exponent - q).toNat :=
    two_zpow_add (by omega)
  rw [distance_eq_zpow, hpowers]
  push_cast
  ring

/-- A number with a smaller unit is below all of full length. -/
theorem distance_le {y : Binary f} {q : Int} (h : y.exponent < q) :
    y.distance ≤ 2 ^ f.fracBits * 2 ^ q := by
  have hsignificand : (y.significand : Rat) ≤ 2 ^ (f.fracBits + 1) := by
    exact_mod_cast y.significand_lt.le
  calc y.distance = y.significand * 2 ^ y.exponent := distance_eq_zpow y
    _ ≤ 2 ^ (f.fracBits + 1) * 2 ^ (q - 1) :=
      mul_le_mul hsignificand (zpow_le_zpow_right₀ one_le_two (by omega)) (by positivity)
        (by positivity)
    _ = 2 ^ f.fracBits * 2 ^ q := by
      rw [zpow_sub_one₀ two_ne_zero, pow_succ]
      ring

theorem distance_zero (negative : Bool) : (zero negative : Binary f).distance = 0 := by
  have hnum : (zero negative : Binary f).num = 0 :=
    (num_eq_zero_iff _).2 (magnitude_ofCode (Nat.two_pow_pos _))
  rw [distance, hnum, Nat.cast_zero, zero_div]

/-- No number is nearer to a ratio than the finite number that it is rounded to. -/
theorem ofRatio_nearest {negative : Bool} {n d : Nat} (hd : d ≠ 0)
    (hfinite : (ofRatio negative n d : Binary f).isFinite) (y : Binary f) :
    |(ofRatio negative n d : Binary f).distance - n / d| ≤ |y.distance - n / d| := by
  by_cases hn : n = 0
  · rw [ofRatio, if_pos hn, distance_zero, hn, Nat.cast_zero, zero_div, sub_zero, abs_zero]
    exact abs_nonneg _
  generalize hq : unitExponent f n d = q
  have hmultiple := ofRatio_nearest_multiple hn hd hq hfinite
  rcases le_or_gt q y.exponent with hle | hlt
  · obtain ⟨k, hk⟩ := exists_distance_eq hle
    rw [hk]
    exact hmultiple k
  · -- the least number of full length is between the number and the ratio
    have hbelow := distance_le hlt
    have habove : (2 : Rat) ^ f.fracBits * 2 ^ q ≤ n / d := by
      obtain ⟨-, -, hfull⟩ := unitExponent_spec hn hd hq
      have hleast := y.minExponent_le_exponent
      rw [← le_div_iff₀ (by positivity)]
      exact hfull.resolve_left (by omega)
    have hnearest := hmultiple (2 ^ f.fracBits : Nat)
    rw [Int.cast_natCast] at hnearest
    push_cast at hnearest
    rw [abs_of_nonpos (by linarith : (2 : Rat) ^ f.fracBits * 2 ^ q - n / d ≤ 0)] at hnearest
    rw [abs_of_nonpos (by linarith : y.distance - n / d ≤ 0)]
    linarith

/-! ## Nearest numbers -/

/-- A finite number than which no other is nearer to a rational. -/
def IsNearest (x : Binary f) (q : Rat) : Prop :=
  x.isFinite ∧ ∀ y : Binary f, y.isFinite → |x.toRat - q| ≤ |y.toRat - q|

theorem isNearest_toRat {x : Binary f} (hfinite : x.isFinite) : x.IsNearest x.toRat :=
  ⟨hfinite, fun y _ => by rw [sub_self, abs_zero]; exact abs_nonneg _⟩

/-- A number nearest to the value of another has that value. -/
theorem IsNearest.toRat_eq {x y : Binary f} {q : Rat} (h : x.IsNearest q) (hfinite : y.isFinite)
    (hvalue : y.toRat = q) : x.toRat = q := by
  have hle := h.2 y hfinite
  rw [hvalue, sub_self, abs_zero] at hle
  exact sub_eq_zero.1 (abs_nonpos_iff.1 hle)

theorem abs_toRat (x : Binary f) : |x.toRat| = x.distance := by
  have hnonneg := abs_of_nonneg x.distance_nonneg
  unfold toRat
  split
  · rw [abs_neg, hnonneg]
  · exact hnonneg

/-- A ratio with a sign is rounded to a nearest number, where that is finite. -/
theorem isNearest_ofRatio {negative : Bool} {n d : Nat} (hd : d ≠ 0)
    (hfinite : (ofRatio negative n d : Binary f).isFinite) :
    (ofRatio negative n d : Binary f).IsNearest (if negative then -(n / d : Rat) else n / d) := by
  have hratio : (0 : Rat) ≤ n / d := div_nonneg (Nat.cast_nonneg _) (Nat.cast_nonneg _)
  refine ⟨hfinite, fun y _ => ?_⟩
  have hnearest := ofRatio_nearest hd hfinite y
  rw [toRat, negative_ofRatio]
  -- the distances from zero are no farther apart than the numbers
  cases negative with
  | false =>
    refine hnearest.trans ?_
    have hapart := abs_abs_sub_abs_le y.toRat (n / d)
    rwa [abs_toRat, abs_of_nonneg hratio] at hapart
  | true =>
    have hapart := abs_abs_sub_abs_le y.toRat (-(n / d))
    rw [abs_toRat, abs_neg, abs_of_nonneg hratio] at hapart
    rw [if_pos rfl, if_pos rfl, neg_sub_neg, abs_sub_comm]
    exact hnearest.trans hapart

/-! ## Integers -/

/-- An integer of 64 bits is rounded to a finite float. -/
theorem isFinite_ofInt {i : Int} (h : i.natAbs < 2 ^ 64) : (ofInt i : Binary64).isFinite := by
  rw [ofInt]
  by_cases hzero : i.natAbs = 0
  · rw [ofRatio, if_pos hzero, zero, isFinite, magnitude_ofCode (Nat.two_pow_pos _)]
    decide
  generalize hq : unitExponent .double i.natAbs 1 = q
  have hunit : q ≤ 11 := by
    have hlength := (Nat.log2_lt hzero).2 h
    have hestimate : max Format.double.minExponent
        ((i.natAbs.log2 : Int) - (1 : Nat).log2 - Format.double.fracBits - 1) ≤ 10 := by
      have hone : (1 : Nat).log2 = 0 := rfl
      simp only [Format.minExponent, Format.double, hone]
      omega
    unfold unitExponent at hq
    generalize max Format.double.minExponent
      ((i.natAbs.log2 : Int) - (1 : Nat).log2 - Format.double.fracBits - 1) = e at hq hestimate
    dsimp only at hq
    split at hq <;> omega
  obtain ⟨hlong, -⟩ := divHalfEven_inUnits hzero one_ne_zero hq
  rw [isFinite_ofRatio_iff hzero hq]
  generalize divHalfEven (inUnits i.natAbs 1 q).1 (inUnits i.natAbs 1 q).2 = m at hlong ⊢
  simp only [Format.code, Format.infinityCode, Format.minExponent, Format.double] at hlong ⊢
  omega

/-- An integer of 64 bits, signed or not, is rounded to a nearest number. -/
theorem isNearest_ofInt {i : Int} (h : i.natAbs < 2 ^ 64) : (ofInt i : Binary64).IsNearest i := by
  have hvalue : (i : Rat) =
      if decide (i < 0) then -((i.natAbs : Rat) / (1 : Nat)) else (i.natAbs : Rat) / (1 : Nat) := by
    rw [Nat.cast_one, div_one, Nat.cast_natAbs]
    by_cases hi : i < 0
    · rw [decide_eq_true hi, if_pos rfl, abs_of_neg hi, Int.cast_neg, neg_neg]
    · rw [decide_eq_false hi, if_neg Bool.false_ne_true, abs_of_nonneg (not_lt.1 hi)]
  rw [hvalue]
  exact isNearest_ofRatio one_ne_zero (isFinite_ofInt h)

/-- Every integer of at most 53 bits is a number, and so is the power of two behind them. -/
theorem exists_toRat_eq {i : Int} (h : i.natAbs ≤ 2 ^ 53) :
    ∃ x : Binary64, x.isFinite ∧ x.toRat = i := by
  by_cases hzero : i.natAbs = 0
  · refine ⟨zero false, by decide, ?_⟩
    obtain rfl : i = 0 := Int.natAbs_eq_zero.1 hzero
    exact (toRat_eq_intCast_iff _ 0).2 ⟨distance_zero false, rfl⟩
  obtain ⟨m, q, hm, hlong, hleast, hgreatest, hvalue⟩ : ∃ (m : Nat) (q : Int), 2 ^ 52 ≤ m ∧
      m < 2 ^ 53 ∧ -52 ≤ q ∧ q ≤ 1 ∧ (m : Rat) * 2 ^ q = i.natAbs := by
    rcases h.lt_or_eq with hlt | heq
    · obtain ⟨k, hk, hfull, hwithin⟩ := exists_full_length hzero hlt
      refine ⟨_, -k, hfull, hwithin, by omega, by omega, ?_⟩
      rw [zpow_neg, zpow_natCast]
      push_cast
      exact mul_inv_cancel_right₀ (by positivity) _
    · refine ⟨2 ^ 52, 1, le_rfl, by decide, by decide, le_rfl, ?_⟩
      rw [heq]
      norm_num
  have hfits : Format.double.code m q < Format.double.infinityCode := by
    simp only [Format.code, Format.infinityCode, Format.minExponent, Format.double]
    omega
  have hleast : Format.double.minExponent ≤ q := by
    simp only [Format.minExponent, Format.double]
    omega
  obtain ⟨x, hx, hsign, rfl, rfl⟩ :=
    parts_ofCode (f := .double) (decide (i < 0)) hm hlong hleast hfits
  refine ⟨x, hx, (toRat_eq_intCast_iff x i).2 ⟨by rw [distance_eq_zpow, hvalue], ?_⟩⟩
  rw [hsign]
  by_cases hi : i < 0
  · rw [decide_eq_true hi, if_pos rfl]
    omega
  · rw [decide_eq_false hi, if_neg Bool.false_ne_true]
    omega

end Binary

end PgRole
