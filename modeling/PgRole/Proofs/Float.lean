import Mathlib.Tactic.Ring
import PgRole.Float.Rounding

/-!
# Exact floating-point numbers

Rounding gives back what needs none: a ratio that equals a finite number is rounded to that number,
whichever numerator and denominator give it (`ofRatio_eq_self`). Every finite number of 32 bits
equals one of 64 (`exists_double`), so that a number of 32 bits comes back from 64 as it was, with
its sign if it is zero (`convert_convert`).

The numbers of a format are reached from both ends: from the bits to significand and exponent
(`code_significand_exponent`), and from a significand of full length and an exponent to the bits
(`parts_ofCode`). Powers of two stand on either side of an equation, so that no exponent is below
zero.
-/

namespace PgRole

theorem Format.infinityCode_lt (f : Format) : f.infinityCode < 2 ^ f.magnitudeBits := by
  rw [infinityCode, magnitudeBits, Nat.pow_add]
  exact Nat.mul_lt_mul_of_pos_right (by have := Nat.two_pow_pos f.expBits; omega)
    (Nat.two_pow_pos _)

namespace Binary

variable {f g : Format}

/-! ## Bits and parts -/

theorem eq_sign_add_magnitude {n : Nat} (h : n < 2 ^ f.width) :
    n = (if 2 ^ f.magnitudeBits ≤ n then 2 ^ f.magnitudeBits else 0) + n % 2 ^ f.magnitudeBits := by
  rw [Format.width, Nat.pow_succ] at h
  split
  · rw [Nat.mod_eq_sub_mod ‹_›, Nat.mod_eq_of_lt (by omega)]
    omega
  · rw [Nat.mod_eq_of_lt (by omega), Nat.zero_add]

/-- The bits of a number are its sign and, below it, its code. -/
theorem toNat_ofCode {negative : Bool} {code : Nat} (h : code < 2 ^ f.magnitudeBits) :
    (ofCode negative code : Binary f).bits.toNat =
      (if negative then 2 ^ f.magnitudeBits else 0) + code := by
  have hfits : (if negative then 2 ^ f.magnitudeBits else 0) + code < 2 ^ f.width := by
    rw [Format.width, Nat.pow_succ]
    split <;> omega
  rw [ofCode, BitVec.toNat_ofNat, Nat.mod_eq_of_lt h, Nat.mod_eq_of_lt hfits]

theorem negative_ofCode {negative : Bool} {code : Nat} (h : code < 2 ^ f.magnitudeBits) :
    (ofCode negative code : Binary f).negative = negative := by
  rw [Binary.negative, toNat_ofCode h]
  cases negative <;> simp [h]

theorem magnitude_ofCode {negative : Bool} {code : Nat} (h : code < 2 ^ f.magnitudeBits) :
    (ofCode negative code : Binary f).magnitude = code := by
  rw [magnitude, toNat_ofCode h]
  cases negative <;> simp [Nat.mod_eq_of_lt h]

/-- A number is its sign and the bits below it. -/
theorem ofCode_self (x : Binary f) : ofCode x.negative x.magnitude = x := by
  have hcode : x.magnitude < 2 ^ f.magnitudeBits := Nat.mod_lt _ (Nat.two_pow_pos _)
  have hbits := eq_sign_add_magnitude x.bits.isLt
  have hnat : (ofCode x.negative x.magnitude : Binary f).bits.toNat = x.bits.toNat := by
    rw [toNat_ofCode hcode]
    simp only [negative, decide_eq_true_eq]
    exact hbits.symm
  calc ofCode x.negative x.magnitude = ⟨(ofCode x.negative x.magnitude : Binary f).bits⟩ := rfl
    _ = ⟨x.bits⟩ := by rw [BitVec.eq_of_toNat_eq hnat]

theorem significand_of_lt {x : Binary f} (h : x.magnitude < 2 ^ f.fracBits) :
    x.significand = x.magnitude := by
  rw [significand, if_pos h, Nat.mod_eq_of_lt h]

theorem significand_of_le {x : Binary f} (h : 2 ^ f.fracBits ≤ x.magnitude) :
    x.significand = 2 ^ f.fracBits + x.magnitude % 2 ^ f.fracBits := by
  rw [significand, if_neg (by omega)]

/-- The significand and the exponent of a number are those of the bits below its sign. -/
theorem code_significand_exponent (x : Binary f) :
    f.code x.significand x.exponent = x.magnitude := by
  have hdiv := Nat.div_add_mod x.magnitude (2 ^ f.fracBits)
  have hplace : (x.exponent - f.minExponent).toNat = x.magnitude / 2 ^ f.fracBits - 1 := by
    unfold exponent
    omega
  rw [Format.code, hplace]
  by_cases hsmall : x.magnitude < 2 ^ f.fracBits
  · rw [significand_of_lt hsmall, Nat.div_eq_of_lt hsmall, Nat.zero_sub, Nat.zero_mul, Nat.zero_add]
  · have hone : 1 ≤ x.magnitude / 2 ^ f.fracBits :=
      (Nat.one_le_div_iff (Nat.two_pow_pos _)).2 (by omega)
    rw [significand_of_le (by omega), ← Nat.add_assoc, ← Nat.succ_mul, Nat.succ_eq_add_one,
      Nat.sub_add_cancel hone, Nat.mul_comm, hdiv]

/-- A significand has no more digits than its format allows. -/
theorem significand_lt (x : Binary f) : x.significand < 2 ^ (f.fracBits + 1) := by
  have hmod := Nat.mod_lt x.magnitude (Nat.two_pow_pos f.fracBits)
  rw [Nat.pow_succ]
  rcases Nat.lt_or_ge x.magnitude (2 ^ f.fracBits) with h | h
  · rw [significand_of_lt h]
    omega
  · rw [significand_of_le h]
    omega

theorem minExponent_le_exponent (x : Binary f) : f.minExponent ≤ x.exponent := by
  unfold exponent
  omega

/-- A significand is of full length, or the exponent is the least. -/
theorem le_significand_or (x : Binary f) :
    2 ^ f.fracBits ≤ x.significand ∨
      x.significand < 2 ^ f.fracBits ∧ x.exponent = f.minExponent := by
  rcases Nat.lt_or_ge x.magnitude (2 ^ f.fracBits) with h | h
  · refine .inr ⟨by rwa [significand_of_lt h], ?_⟩
    rw [exponent, Nat.div_eq_of_lt h]
    omega
  · left
    rw [significand_of_le h]
    exact Nat.le_add_right _ _

theorem magnitude_eq_zero_iff (x : Binary f) : x.magnitude = 0 ↔ x.significand = 0 := by
  have hpos := Nat.two_pow_pos f.fracBits
  rcases Nat.lt_or_ge x.magnitude (2 ^ f.fracBits) with h | h
  · rw [significand_of_lt h]
  · rw [significand_of_le h]
    omega

theorem num_eq_zero_iff (x : Binary f) : x.num = 0 ↔ x.magnitude = 0 := by
  rw [magnitude_eq_zero_iff, num, Nat.mul_eq_zero,
    or_iff_left (Nat.pos_iff_ne_zero.1 (Nat.two_pow_pos _))]

theorem den_pos (x : Binary f) : 0 < x.den := Nat.two_pow_pos _

/-- A significand of full length and an exponent are the parts of the number with their bits. -/
theorem parts_ofCode (negative : Bool) {m : Nat} {q : Int} (hm : 2 ^ f.fracBits ≤ m)
    (hlong : m < 2 ^ (f.fracBits + 1)) (hq : f.minExponent ≤ q)
    (hfits : f.code m q < f.infinityCode) :
    ∃ x : Binary f, x.isFinite ∧ x.negative = negative ∧ x.significand = m ∧ x.exponent = q := by
  have hcode := Nat.lt_trans hfits f.infinityCode_lt
  have hdiv : f.code m q / 2 ^ f.fracBits = (q - f.minExponent).toNat + 1 := by
    have hone : m / 2 ^ f.fracBits = 1 :=
      Nat.div_eq_of_lt_le (by omega) (by rw [Nat.pow_succ] at hlong; omega)
    rw [Format.code, Nat.add_comm, Nat.add_mul_div_right _ _ (Nat.two_pow_pos _), hone,
      Nat.add_comm]
  have hmod : 2 ^ f.fracBits + f.code m q % 2 ^ f.fracBits = m := by
    have hrest : m % 2 ^ f.fracBits = m - 2 ^ f.fracBits := by
      rw [Nat.mod_eq_sub_mod hm, Nat.mod_eq_of_lt (by rw [Nat.pow_succ] at hlong; omega)]
    rw [Format.code, Nat.mul_add_mod_self_right, hrest]
    omega
  have hlarge : 2 ^ f.fracBits ≤ f.code m q := by
    unfold Format.code
    omega
  have hmagnitude : (ofCode negative (f.code m q) : Binary f).magnitude = f.code m q :=
    magnitude_ofCode hcode
  refine ⟨ofCode negative (f.code m q), ?_, negative_ofCode hcode, ?_, ?_⟩
  · rw [isFinite, hmagnitude, decide_eq_true hfits]
  · rw [significand_of_le (by rwa [hmagnitude]), hmagnitude, hmod]
  · rw [exponent, hmagnitude, hdiv]
    omega

/-! ## Rounding -/

/-- `2^e = 2^k · 2^q` with each power of a negative exponent taken to the other side. -/
theorem two_pow_toNat {e q : Int} {k : Nat} (h : e = q + k) :
    2 ^ e.toNat * 2 ^ (-q).toNat = 2 ^ k * 2 ^ q.toNat * 2 ^ (-e).toNat := by
  have hexponents : e.toNat + (-q).toNat = k + q.toNat + (-e).toNat := by omega
  rw [← Nat.pow_add, ← Nat.pow_add, ← Nat.pow_add, hexponents]

/-- A ratio that is `m · 2^e`, in a unit no greater than `2^e`. -/
theorem inUnits_eq {n d m : Nat} {e q : Int} (hq : q ≤ e)
    (h : n * 2 ^ (-e).toNat = m * 2 ^ e.toNat * d) :
    (inUnits n d q).1 = m * 2 ^ (e - q).toNat * (inUnits n d q).2 := by
  have hpowers : 2 ^ e.toNat * 2 ^ (-q).toNat =
      2 ^ (e - q).toNat * 2 ^ q.toNat * 2 ^ (-e).toNat := two_pow_toNat (by omega)
  apply Nat.eq_of_mul_eq_mul_right (Nat.two_pow_pos (-e).toNat)
  calc n * 2 ^ (-q).toNat * 2 ^ (-e).toNat
      = n * 2 ^ (-e).toNat * 2 ^ (-q).toNat := by ring
    _ = m * d * (2 ^ e.toNat * 2 ^ (-q).toNat) := by
        rw [h]
        ring
    _ = m * 2 ^ (e - q).toNat * (d * 2 ^ q.toNat) * 2 ^ (-e).toNat := by
        rw [hpowers]
        ring

/-- The lengths of numerator and denominator bound the exponent of a ratio `m · 2^e`. -/
theorem log2_bounds {n d m k : Nat} {e : Int} (hn : n ≠ 0) (hd : d ≠ 0)
    (h : n * 2 ^ (-e).toNat = m * 2 ^ e.toNat * d) :
    (m < 2 ^ k → (n.log2 : Int) - d.log2 < k + 1 + e) ∧
      (2 ^ k ≤ m → (k : Int) + e < n.log2 - d.log2 + 1) := by
  have hnLow := Nat.log2_self_le hn
  have hnHigh : n < 2 ^ (n.log2 + 1) := Nat.lt_log2_self
  have hdLow := Nat.log2_self_le hd
  have hdHigh : d < 2 ^ (d.log2 + 1) := Nat.lt_log2_self
  -- both bounds by comparing powers of two on either side of `h`
  constructor
  · intro hm
    have hlt : 2 ^ (n.log2 + (-e).toNat) < 2 ^ (k + e.toNat + (d.log2 + 1)) := by
      calc 2 ^ (n.log2 + (-e).toNat) = 2 ^ n.log2 * 2 ^ (-e).toNat := Nat.pow_add ..
        _ ≤ n * 2 ^ (-e).toNat := Nat.mul_le_mul_right _ hnLow
        _ = m * 2 ^ e.toNat * d := h
        _ < 2 ^ k * 2 ^ e.toNat * 2 ^ (d.log2 + 1) :=
          Nat.mul_lt_mul_of_le_of_lt (Nat.mul_le_mul_right _ (Nat.le_of_lt hm)) hdHigh
            (Nat.mul_pos (Nat.two_pow_pos _) (Nat.two_pow_pos _))
        _ = 2 ^ (k + e.toNat + (d.log2 + 1)) := by
            rw [Nat.pow_add 2 (k + e.toNat), Nat.pow_add 2 k]
    have := (Nat.pow_lt_pow_iff_right (by decide : 1 < 2)).1 hlt
    omega
  · intro hm
    have hlt : 2 ^ (k + e.toNat + d.log2) < 2 ^ (n.log2 + 1 + (-e).toNat) := by
      calc 2 ^ (k + e.toNat + d.log2) = 2 ^ k * 2 ^ e.toNat * 2 ^ d.log2 := by
            rw [Nat.pow_add, Nat.pow_add]
        _ ≤ m * 2 ^ e.toNat * d := Nat.mul_le_mul (Nat.mul_le_mul_right _ hm) hdLow
        _ = n * 2 ^ (-e).toNat := h.symm
        _ < 2 ^ (n.log2 + 1) * 2 ^ (-e).toNat :=
          Nat.mul_lt_mul_of_pos_right hnHigh (Nat.two_pow_pos _)
        _ = 2 ^ (n.log2 + 1 + (-e).toNat) := (Nat.pow_add ..).symm
    have := (Nat.pow_lt_pow_iff_right (by decide : 1 < 2)).1 hlt
    omega

theorem inUnits_snd_pos {n d : Nat} (q : Int) (hd : d ≠ 0) : 0 < (inUnits n d q).2 :=
  Nat.mul_pos (Nat.pos_of_ne_zero hd) (Nat.two_pow_pos _)

/-- The unit of a ratio that equals a number is the unit of the number. -/
theorem unitExponent_eq {x : Binary f} {n d : Nat} (hn : n ≠ 0) (hd : d ≠ 0)
    (h : n * x.den = x.num * d) : unitExponent f n d = x.exponent := by
  have hratio : n * 2 ^ (-x.exponent).toNat = x.significand * 2 ^ x.exponent.toNat * d := h
  have hbounds (k : Nat) := log2_bounds (k := k) hn hd hratio
  have hlong := (hbounds (f.fracBits + 1)).1 x.significand_lt
  have hleast := x.minExponent_le_exponent
  unfold unitExponent
  generalize hq : max f.minExponent ((n.log2 : Int) - d.log2 - f.fracBits - 1) = q
  -- the estimate by lengths is the exponent or one below it, and that only for a full length
  have hestimate : q = x.exponent ∨ q = x.exponent - 1 ∧ 2 ^ f.fracBits ≤ x.significand := by
    rcases x.le_significand_or with hfull | ⟨hshort, he⟩
    · have := (hbounds f.fracBits).2 hfull
      omega
    · have := (hbounds f.fracBits).1 hshort
      omega
  dsimp only
  rcases hestimate with rfl | ⟨rfl, hfull⟩
  · have hunits := inUnits_eq (Int.le_refl x.exponent) hratio
    rw [Int.sub_self, Int.toNat_zero, Nat.pow_zero, Nat.mul_one] at hunits
    rw [hunits, Nat.mul_div_cancel _ (inUnits_snd_pos _ hd), if_pos x.significand_lt]
  · have hunits := inUnits_eq (by omega : x.exponent - 1 ≤ x.exponent) hratio
    have hone : (x.exponent - (x.exponent - 1)).toNat = 1 := by omega
    rw [hone, Nat.pow_one] at hunits
    rw [hunits, Nat.mul_div_cancel _ (inUnits_snd_pos _ hd), if_neg (by rw [Nat.pow_succ]; omega)]
    omega

theorem divHalfEven_mul (m : Nat) {d : Nat} (hd : 0 < d) : divHalfEven (m * d) d = m := by
  rw [divHalfEven, Nat.mul_div_cancel _ hd, Nat.mul_mod_left, if_pos (by omega)]

/-- A ratio that equals a finite number is rounded to it. -/
theorem ofRatio_eq_self {x : Binary f} (hfinite : x.isFinite) {n d : Nat} (hd : d ≠ 0)
    (h : n * x.den = x.num * d) : ofRatio x.negative n d = x := by
  have hfits : x.magnitude < f.infinityCode := of_decide_eq_true hfinite
  unfold ofRatio
  by_cases hn : n = 0
  · have hzero : x.magnitude = 0 := by
      rw [hn, Nat.zero_mul, eq_comm, Nat.mul_eq_zero, or_iff_left hd] at h
      exact x.num_eq_zero_iff.1 h
    rw [if_pos hn, zero, ← hzero, ofCode_self]
  · have hratio : n * 2 ^ (-x.exponent).toNat = x.significand * 2 ^ x.exponent.toNat * d := h
    have hunits := inUnits_eq (Int.le_refl x.exponent) hratio
    rw [Int.sub_self, Int.toNat_zero, Nat.pow_zero, Nat.mul_one] at hunits
    rw [if_neg hn, unitExponent_eq hn hd h]
    dsimp only
    rw [hunits, divHalfEven_mul _ (inUnits_snd_pos _ hd), code_significand_exponent,
      Nat.min_eq_right (Nat.le_of_lt hfits), ofCode_self]

/-! ## Other formats -/

/-- A finite number is rounded to another format as the ratio that it is. -/
theorem convert_of_isFinite (g : Format) {x : Binary f} (hfinite : x.isFinite) :
    x.convert g = ofRatio x.negative x.num x.den := by
  have hfits : x.magnitude < f.infinityCode := of_decide_eq_true hfinite
  have hNaN : ¬ x.isNaN := by
    rw [isNaN, decide_eq_true_eq]
    omega
  have hinfinite : ¬ x.isInfinite := by
    rw [isInfinite, beq_iff_eq]
    omega
  rw [convert, if_neg hNaN, if_neg hinfinite]

/-- A number of another format with the value of a number is what the number converts to. -/
theorem convert_eq {x : Binary f} {y : Binary g} (hx : x.isFinite) (hy : y.isFinite)
    (hsign : y.negative = x.negative) (hvalue : x.num * y.den = y.num * x.den) :
    x.convert g = y := by
  rw [convert_of_isFinite g hx, ← hsign]
  exact ofRatio_eq_self hy (Nat.pos_iff_ne_zero.1 x.den_pos) hvalue

/-- A number that is not too long gets a length with zeros behind it. -/
theorem exists_full_length {m p : Nat} (hm : m ≠ 0) (hlong : m < 2 ^ (p + 1)) :
    ∃ k ≤ p, 2 ^ p ≤ m * 2 ^ k ∧ m * 2 ^ k < 2 ^ (p + 1) := by
  have hlow := Nat.log2_self_le hm
  have hhigh : m < 2 ^ (m.log2 + 1) := Nat.lt_log2_self
  have hlength : m.log2 ≤ p := Nat.le_of_lt_succ ((Nat.log2_lt hm).2 hlong)
  have hpower {i j : Nat} (h : i + (p - m.log2) = j) : 2 ^ j = 2 ^ i * 2 ^ (p - m.log2) := by
    rw [← Nat.pow_add, h]
  refine ⟨p - m.log2, Nat.sub_le .., ?_, ?_⟩
  · rw [hpower (by omega : m.log2 + (p - m.log2) = p)]
    exact Nat.mul_le_mul_right _ hlow
  · rw [hpower (by omega : m.log2 + 1 + (p - m.log2) = p + 1)]
    exact Nat.mul_lt_mul_of_pos_right hhigh (Nat.two_pow_pos _)

/-- Zeros behind a significand are made up for by the exponent. -/
theorem value_eq_of_shift {x : Binary f} {y : Binary g} {k : Nat}
    (hsignificand : y.significand = x.significand * 2 ^ k) (hexponent : x.exponent = y.exponent + k) :
    x.num * y.den = y.num * x.den := by
  have hpowers := two_pow_toNat hexponent
  rw [num, den, num, den, hsignificand]
  calc x.significand * 2 ^ x.exponent.toNat * 2 ^ (-y.exponent).toNat
      = x.significand * (2 ^ x.exponent.toNat * 2 ^ (-y.exponent).toNat) := by ring
    _ = x.significand * 2 ^ k * 2 ^ y.exponent.toNat * 2 ^ (-x.exponent).toNat := by
        rw [hpowers]
        ring

/-- Every finite number of 32 bits equals one of 64. -/
theorem exists_double {x : Binary32} (hfinite : x.isFinite) :
    ∃ y : Binary64, y.isFinite ∧ y.negative = x.negative ∧ x.num * y.den = y.num * x.den := by
  by_cases hzero : x.significand = 0
  · refine ⟨zero x.negative, ?_, negative_ofCode (by decide), ?_⟩
    · cases x.negative <;> decide
    · have hnum : x.num = 0 := by rw [num, hzero, Nat.zero_mul]
      have hnum' : (zero x.negative : Binary64).num = 0 := by cases x.negative <;> decide
      rw [hnum, hnum', Nat.zero_mul, Nat.zero_mul]
  have hbounds : -149 ≤ x.exponent ∧ x.exponent ≤ 104 := by
    have hfits : x.magnitude < Format.single.infinityCode := of_decide_eq_true hfinite
    unfold exponent
    simp only [Format.infinityCode, Format.minExponent, Format.single] at hfits ⊢
    omega
  have hlong : x.significand < 2 ^ 53 := Nat.lt_trans x.significand_lt (by decide)
  obtain ⟨k, hk, hfull, hwithin⟩ := exists_full_length hzero hlong
  have hleast : Format.double.minExponent ≤ x.exponent - k := by
    simp only [Format.minExponent, Format.double]
    omega
  have hfits : Format.double.code (x.significand * 2 ^ k) (x.exponent - k) <
      Format.double.infinityCode := by
    simp only [Format.code, Format.infinityCode, Format.minExponent, Format.double]
    omega
  obtain ⟨y, hy, hsign, hsignificand, hexponent⟩ :=
    parts_ofCode (f := .double) x.negative hfull hwithin hleast hfits
  exact ⟨y, hy, hsign, value_eq_of_shift hsignificand (by omega)⟩

/-- A finite number of 32 bits comes back from 64 bits. -/
theorem convert_convert {x : Binary32} (hfinite : x.isFinite) :
    (x.convert .double).isFinite ∧ (x.convert .double).convert .single = x := by
  obtain ⟨y, hy, hsign, hvalue⟩ := exists_double hfinite
  rw [convert_eq hfinite hy hsign hvalue]
  exact ⟨hy, convert_eq hy hfinite hsign.symm hvalue.symm⟩

end Binary

end PgRole
