import PgRole.Decimal.Reader
import PgRole.Proofs.Text.Digits
import PgRole.Proofs.Text.Span

/-!
# Decimals read back

The text of a decimal with no more places than a text can give reads back as a decimal of the same
value and the same places (`read?_text`). Zero has no sign when it is read, so that a negative zero
comes back as zero; nothing else of a decimal is lost.

The reader switches to wider arithmetic when the mantissa outgrows 64 bits, and stops at the last
place that counts. On the digits of a mantissa that fits neither shows: `scan_whole` and
`scan_fraction` say what the scan has after the digits in front of the point and after those
behind it.
-/

namespace PgRole.Decimal

open Text

variable {cs ds rest : List Char}

/-- The integer of a decimal without its point. -/
def integer (d : Decimal) : Int := if d.negative then -(d.mantissa : Int) else d.mantissa

/-- Two decimals of one value and one number of places; the sign of zero does not count. -/
def Same (d e : Decimal) : Prop := d.integer = e.integer ∧ d.scale = e.scale

instance (d e : Decimal) : Decidable (d.Same e) := inferInstanceAs (Decidable (_ ∧ _))

/-! ## Scanning digits -/

/-- A mantissa with digits put behind it. -/
def extend (m : Nat) (ds : List Char) : Nat :=
  ds.foldl (fun n c => 10 * n + (digitVal? c).getD 0) m

theorem extend_zero (ds : List Char) : extend 0 ds = valueOf ds := rfl

theorem extend_cons {c : Char} {n : Nat} (hc : digitVal? c = some n) (m : Nat) (ds : List Char) :
    extend m (c :: ds) = extend (10 * m + n) ds := by
  rw [extend, List.foldl_cons, hc]
  rfl

theorem extend_append (m : Nat) (ds es : List Char) :
    extend m (ds ++ es) = extend (extend m ds) es :=
  List.foldl_append

theorem le_extend (m : Nat) (ds : List Char) : m ≤ extend m ds := by
  induction ds generalizing m with
  | nil => exact le_rfl
  | cons c ds ih =>
    have hstep := ih (10 * m + (digitVal? c).getD 0)
    have hextend : extend m (c :: ds) = extend (10 * m + (digitVal? c).getD 0) ds := rfl
    omega

theorem digitVal?_of_isDigit {c : Char} (h : isDigit c) : ∃ n, digitVal? c = some n :=
  Option.isSome_iff_exists.1 h

/-- Digits in front of the point are collected, as long as the mantissa fits. -/
theorem scan_whole (long digit wide : Bool) {m : Nat} (rest : List Char)
    (hdigits : ∀ c ∈ ds, isDigit c) (hfits : extend m ds < limit) :
    ∃ wide', scan long ⟨false, digit, wide, m, 0⟩ (ds ++ rest) =
      scan long ⟨false, digit || !ds.isEmpty, wide', extend m ds, 0⟩ rest := by
  induction ds generalizing m digit wide with
  | nil =>
    refine ⟨wide, ?_⟩
    rw [List.nil_append, List.isEmpty_nil, Bool.not_true, Bool.or_false]
    rfl
  | cons c ds ih =>
    obtain ⟨hc, hdigits⟩ := List.forall_mem_cons.1 hdigits
    obtain ⟨n, hn⟩ := digitVal?_of_isDigit hc
    rw [extend_cons hn] at hfits ⊢
    have hstep : 10 * m + n < limit := (le_extend _ ds).trans_lt hfits
    obtain ⟨wide', h⟩ := ih true (wide || (long && decide (wideFrom ≤ 10 * m + n))) hdigits hfits
    refine ⟨wide', ?_⟩
    rw [List.isEmpty_cons, Bool.not_false, Bool.or_true]
    rw [Bool.true_or] at h
    rw [← h, List.cons_append, scan, hn]
    simp [Nat.not_le.2 hstep, Progress.push, Progress.nextScale]

/-- Digits behind the point are collected, as long as the mantissa fits and there are no more of
them than count: the last that counts is the last of the text. -/
theorem scan_fraction (long wide : Bool) {m s : Nat} (hdigits : ∀ c ∈ ds, isDigit c)
    (hfits : extend m ds < limit) (hscale : s + ds.length ≤ maxScale) :
    scan long ⟨true, true, wide, m, s⟩ ds = some (extend m ds, s + ds.length) := by
  induction ds generalizing m s wide with
  | nil => rfl
  | cons c ds ih =>
    obtain ⟨hc, hdigits⟩ := List.forall_mem_cons.1 hdigits
    obtain ⟨n, hn⟩ := digitVal?_of_isDigit hc
    rw [extend_cons hn] at hfits ⊢
    rw [List.length_cons] at hscale ⊢
    have hstep : 10 * m + n < limit := (le_extend _ ds).trans_lt hfits
    by_cases hlast : long = true ∧ maxScale ≤ s + 1
    · have hnil : ds = [] := List.eq_nil_of_length_eq_zero (by omega)
      subst hnil
      rw [scan, hn]
      simp [Nat.not_le.2 hstep, Progress.nextScale, hlast.1, hlast.2, extend]
    · have h := ih (wide || (long && decide (wideFrom ≤ 10 * m + n))) hdigits hfits
        (by omega : s + 1 + ds.length ≤ maxScale)
      have hearlier : (long && decide (maxScale ≤ s + 1)) = false := by simpa using hlast
      rw [Nat.add_comm ds.length 1, ← Nat.add_assoc, ← h, scan, hn]
      simp [Nat.not_le.2 hstep, Progress.push, Progress.nextScale, hearlier]

/-! ## Texts -/

theorem isDigit_of_mem_digits (d : Decimal) : ∀ c ∈ d.digits, isDigit c :=
  isDigit_of_mem_decimalPadded

theorem scale_lt_length_digits (d : Decimal) : d.scale < d.digits.length :=
  le_length_decimalPadded _ _

theorem valueOf_digits (d : Decimal) : valueOf d.digits = d.mantissa := valueOf_decimalPadded _ _

/-- The digits of a decimal with its point are its mantissa and its places. -/
theorem scan_magnitudeText (d : Decimal) (long : Bool) (hscale : d.scale ≤ maxScale) :
    scan long ⟨false, false, false, 0, 0⟩ d.magnitudeText = some (d.mantissa, d.scale) := by
  have hlen := d.scale_lt_length_digits
  have hne : d.digits ≠ [] := List.ne_nil_of_length_pos (by omega)
  have hall : extend 0 d.digits < limit := by
    rw [extend_zero, valueOf_digits]
    exact d.fits
  unfold magnitudeText
  -- without places there is no point, and one scan of digits reads all
  by_cases hwhole : d.scale = 0
  · rw [if_pos hwhole]
    obtain ⟨wide, h⟩ := scan_whole long false false [] d.isDigit_of_mem_digits hall
    rw [List.append_nil] at h
    rw [h, extend_zero, valueOf_digits, hwhole, List.isEmpty_eq_false_iff.2 hne]
    rfl
  · rw [if_neg hwhole]
    generalize hn : d.digits.length - d.scale = n
    -- the digits before and behind the point, put together again
    have hparts : extend (extend 0 (d.digits.take n)) (d.digits.drop n) = d.mantissa := by
      rw [← extend_append, List.take_append_drop, extend_zero, valueOf_digits]
    have hwholeDigits : ∀ c ∈ d.digits.take n, isDigit c :=
      fun c hc => d.isDigit_of_mem_digits c (List.mem_of_mem_take hc)
    have hfractionDigits : ∀ c ∈ d.digits.drop n, isDigit c :=
      fun c hc => d.isDigit_of_mem_digits c (List.mem_of_mem_drop hc)
    have hwholeNe : (d.digits.take n).isEmpty = false := by
      rw [List.isEmpty_eq_false_iff, ← List.length_pos_iff, List.length_take]
      omega
    have hplaces : (d.digits.drop n).length = d.scale := by
      rw [List.length_drop]
      omega
    have hfits : extend (extend 0 (d.digits.take n)) (d.digits.drop n) < limit := by
      rw [hparts]
      exact d.fits
    obtain ⟨wide, h⟩ := scan_whole long false false ('.' :: d.digits.drop n) hwholeDigits
      ((le_extend _ _).trans_lt hfits)
    have hpoint (m : Nat) (r : List Char) : scan long ⟨false, true, wide, m, 0⟩ ('.' :: r) =
        scan long ⟨true, true, wide, m, 0⟩ r := by
      rw [scan, show digitVal? '.' = none by decide]
      rfl
    rw [h, hwholeNe, Bool.not_false, Bool.or_true, hpoint,
      scan_fraction long wide hfractionDigits hfits (by rw [hplaces]; omega), hparts, hplaces,
      Nat.zero_add]

/-- The text of a decimal without its sign begins with a digit. -/
theorem exists_cons_magnitudeText (d : Decimal) :
    ∃ c cs, d.magnitudeText = c :: cs ∧ isDigit c := by
  have hlen := d.scale_lt_length_digits
  have hne : d.digits ≠ [] := List.ne_nil_of_length_pos (by omega)
  obtain ⟨c, cs, h⟩ := List.exists_cons_of_ne_nil hne
  have hc : isDigit c := d.isDigit_of_mem_digits c (h ▸ List.mem_cons_self)
  unfold magnitudeText
  by_cases hwhole : d.scale = 0
  · exact ⟨c, cs, by rw [if_pos hwhole, h], hc⟩
  · rw [if_neg hwhole]
    obtain ⟨n, hn⟩ : ∃ n, d.digits.length - d.scale = n + 1 :=
      ⟨_, (Nat.sub_add_cancel (by omega)).symm⟩
    exact ⟨c, cs.take n ++ '.' :: cs.drop n, by rw [hn, h]; rfl, hc⟩

/-- A decimal of parts that fit has the value and the places of the parts. -/
theorem exists_unsignedZero? (d : Decimal) :
    ∃ e, unsignedZero? d.negative d.mantissa d.scale = some e ∧ e.Same d := by
  refine ⟨⟨d.negative && d.mantissa != 0, d.mantissa, d.scale, d.fits⟩, dif_pos d.fits, ?_, rfl⟩
  unfold integer
  by_cases hzero : d.mantissa = 0
  · simp [hzero]
  · simp [hzero]

/-- The text of a decimal reads back as a decimal of the same value and places. -/
theorem read?_text (d : Decimal) (hscale : d.scale ≤ maxScale) :
    ∃ e, read? d.text = some e ∧ e.Same d := by
  obtain ⟨e, he, hsame⟩ := d.exists_unsignedZero?
  refine ⟨e, ?_, hsame⟩
  have hread (long : Bool) : readUnsigned? d.negative long d.magnitudeText = some e := by
    rw [readUnsigned?, d.scan_magnitudeText long hscale, Option.bind_some]
    exact he
  have hchars : ofText? d.text = some e := by
    unfold ofText? text
    rw [String.toList_ofList]
    cases hsign : d.negative with
    | true =>
      rw [hsign] at hread
      rw [if_pos rfl, ofChars?]
      exact hread _
    | false =>
      rw [hsign] at hread
      rw [if_neg (by simp)]
      -- a text without sign begins with a digit, so no sign is found
      obtain ⟨c, cs, h, hc⟩ := d.exists_cons_magnitudeText
      rw [h] at hread ⊢
      unfold ofChars?
      split
      · rename_i hminus
        cases hminus
        exact absurd hc (by decide)
      · rename_i hplus
        cases hplus
        exact absurd hc (by decide)
      · exact hread _
  rw [read?, hchars, Option.some_or]

/-- The text of a decimal has no white space. -/
theorem isBlank_of_mem_text (d : Decimal) : ∀ c ∈ d.text.toList, isBlank c = false := by
  have hdigits : ∀ c ∈ d.digits, isBlank c = false :=
    fun c hc => isBlank_of_isDigit (d.isDigit_of_mem_digits c hc)
  have hmagnitude : ∀ c ∈ d.magnitudeText, isBlank c = false := by
    unfold magnitudeText
    split
    · exact hdigits
    · refine List.forall_mem_append.2 ⟨fun c hc => hdigits c (List.mem_of_mem_take hc), ?_⟩
      exact List.forall_mem_cons.2
        ⟨by decide, fun c hc => hdigits c (List.mem_of_mem_drop hc)⟩
  unfold text
  rw [String.toList_ofList]
  split
  · exact List.forall_mem_cons.2 ⟨by decide, hmagnitude⟩
  · exact hmagnitude

end PgRole.Decimal
