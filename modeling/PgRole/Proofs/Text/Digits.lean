import Mathlib.Data.List.Induction
import Mathlib.Tactic.IntervalCases
import PgRole.Power
import PgRole.Text.Blank
import PgRole.Text.Digits

/-!
# Decimal digits read back

The decimal digits of a number are digits, one or more and no more than the number needs, and their
value is the number (`valueOf_decimal`); so it is with zeros in front (`valueOf_decimalPadded`). An
integer is read from just the numerals that stand for it (`readInt?_eq_some_iff`).
-/

namespace PgRole.Text

theorem digitVal?_digitChar {n : Nat} (h : n < 10) : digitVal? (digitChar n) = some n := by
  interval_cases n <;> decide

theorem hexVal?_digitChar {n : Nat} (h : n < 16) : hexVal? (digitChar n) = some n := by
  interval_cases n <;> decide

/-- The value of digits put in front of others: `n` is what has been read when those begin. -/
theorem foldl_digitsOnto (f : Nat → Char → Nat)
    (hf : ∀ m c, f m c = 10 * m + (digitVal? c).getD 0) (n : Nat) (acc : List Char) :
    (digitsOnto 10 (by decide) n acc).foldl f 0 = acc.foldl f n := by
  induction n using Nat.strong_induction_on generalizing acc with
  | _ n ih =>
    rw [digitsOnto]
    split
    · rename_i h
      simp [hf, digitVal?_digitChar h]
    · rw [ih (n / 10) (by omega), List.foldl_cons, hf,
        digitVal?_digitChar (Nat.mod_lt n (by decide)), Option.getD_some, Nat.div_add_mod]

theorem valueOf_decimal (n : Nat) : valueOf (decimal n) = n :=
  foldl_digitsOnto _ (fun _ _ => rfl) n []

theorem valueOf_concat (cs : List Char) (c : Char) :
    valueOf (cs ++ [c]) = 10 * valueOf cs + (digitVal? c).getD 0 := by
  rw [valueOf, List.foldl_append]
  rfl

/-- Digits behind others move those up by their number of places. -/
theorem valueOf_append (cs ds : List Char) :
    valueOf (cs ++ ds) = valueOf cs * 10 ^ ds.length + valueOf ds := by
  induction ds using List.reverseRecOn with
  | nil => simp [valueOf]
  | append_singleton ds c ih =>
    rw [← List.append_assoc, valueOf_concat, valueOf_concat, ih, List.length_append,
      List.length_singleton, Nat.pow_succ, ← Nat.mul_assoc]
    omega

/-- A number is written in digits. -/
theorem all_isDigit_digitsOnto (n : Nat) {acc : List Char} (h : ∀ c ∈ acc, isDigit c) :
    ∀ c ∈ digitsOnto 10 (by decide) n acc, isDigit c := by
  induction n using Nat.strong_induction_on generalizing acc with
  | _ n ih =>
    have hdigit (m : Nat) (hm : m < 10) : ∀ c ∈ digitChar m :: acc, isDigit c :=
      List.forall_mem_cons.2 ⟨by simp [isDigit, digitVal?_digitChar hm], h⟩
    rw [digitsOnto]
    split
    · exact hdigit n ‹_›
    · exact ih (n / 10) (by omega) (hdigit _ (Nat.mod_lt n (by decide)))

theorem isDigit_of_mem_decimal {n : Nat} {c : Char} (h : c ∈ decimal n) : isDigit c :=
  all_isDigit_digitsOnto n (by simp) c h

theorem digitsOnto_ne_nil (n : Nat) (acc : List Char) : digitsOnto 10 (by decide) n acc ≠ [] := by
  induction n using Nat.strong_induction_on generalizing acc with
  | _ n ih =>
    rw [digitsOnto]
    split
    · simp
    · exact ih (n / 10) (by omega) _

theorem decimal_ne_nil (n : Nat) : decimal n ≠ [] := digitsOnto_ne_nil n []

/-- A number that is not zero is written without a zero in front. -/
theorem exists_cons_digitsOnto {n : Nat} (hn : 0 < n) (acc : List Char) :
    ∃ c r, digitsOnto 10 (by decide) n acc = c :: r ∧ c ≠ '0' := by
  induction n using Nat.strong_induction_on generalizing acc with
  | _ n ih =>
    rw [digitsOnto]
    split
    · refine ⟨digitChar n, acc, rfl, ?_⟩
      interval_cases n <;> decide
    · exact ih (n / 10) (by omega) (by omega) _

/-- A number below a power of ten has no more digits than the power. -/
theorem length_digitsOnto_le {n k : Nat} (h : n < 10 ^ (k + 1)) (acc : List Char) :
    (digitsOnto 10 (by decide) n acc).length ≤ acc.length + k + 1 := by
  induction k generalizing n acc with
  | zero =>
    rw [digitsOnto, if_pos (by simpa using h)]
    simp
  | succ k ih =>
    rw [digitsOnto]
    split
    · simp
    · have hdiv : n / 10 < 10 ^ (k + 1) := by
        rw [Nat.div_lt_iff_lt_mul (by decide), ← Nat.pow_succ]
        exact h
      have := ih hdiv (digitChar (n % 10) :: acc)
      rw [List.length_cons] at this
      omega

theorem length_decimal_le {n k : Nat} (h : n < 10 ^ (k + 1)) : (decimal n).length ≤ k + 1 := by
  have := length_digitsOnto_le h []
  rwa [List.length_nil, Nat.zero_add] at this

/-! ## Digits with zeros in front -/

theorem isDigit_of_mem_decimalPadded {width n : Nat} :
    ∀ c ∈ decimalPadded width n, isDigit c := by
  intro c hc
  rcases List.mem_append.1 hc with hc | hc
  · rw [List.eq_of_mem_replicate hc]
    decide
  · exact isDigit_of_mem_decimal hc

theorem valueOf_zeros_append (k : Nat) (cs : List Char) :
    valueOf (List.replicate k '0' ++ cs) = valueOf cs := by
  induction k with
  | zero => rfl
  | succ k ih => exact ih

theorem valueOf_decimalPadded (width n : Nat) : valueOf (decimalPadded width n) = n := by
  rw [decimalPadded, padZero, valueOf_zeros_append, valueOf_decimal]

theorem decimalPadded_ne_nil (width n : Nat) : decimalPadded width n ≠ [] :=
  List.append_ne_nil_of_right_ne_nil _ (decimal_ne_nil n)

theorem le_length_decimalPadded (width n : Nat) : width ≤ (decimalPadded width n).length := by
  rw [decimalPadded, padZero, List.length_append, List.length_replicate]
  omega

theorem length_decimalPadded_le {width n k : Nat} (h : n < 10 ^ (k + 1)) (hwidth : width ≤ k + 1) :
    (decimalPadded width n).length ≤ k + 1 := by
  have := length_decimal_le h
  rw [decimalPadded, padZero, List.length_append, List.length_replicate]
  omega

/-- A number that has no more digits than the width is written in the width. -/
theorem length_decimalPadded {k n : Nat} (h : n < 10 ^ (k + 1)) :
    (decimalPadded (k + 1) n).length = k + 1 :=
  (length_decimalPadded_le h le_rfl).antisymm (le_length_decimalPadded _ _)

/-! ## Reading digits -/

/-- Digits are not blank. -/
theorem isBlank_of_isDigit {c : Char} (h : isDigit c) : isBlank c = false := by
  have hrange : 0x30 ≤ c.toNat ∧ c.toNat ≤ 0x39 := by
    unfold isDigit digitVal? at h
    split at h
    · rename_i hc
      exact hc
    · cases h
  simp only [isBlank, CharSet.contains, blanks, List.any_cons, List.any_nil, Bool.or_false,
    Bool.or_eq_false_iff, Bool.and_eq_false_iff, decide_eq_false_iff_not]
  omega

theorem readNat?_eq_some_iff {cs : List Char} {n : Nat} :
    readNat? cs = some n ↔ cs ≠ [] ∧ (∀ c ∈ cs, isDigit c) ∧ valueOf cs = n := by
  simp [readNat?, and_assoc]

/-- Decimal digits, one or more, with an optional sign, and the integer that they stand for. -/
inductive Numeral : List Char → Int → Prop
  | unsigned {ds : List Char} (hne : ds ≠ []) (hdigits : ∀ c ∈ ds, isDigit c) :
    Numeral ds (valueOf ds)
  | plus {ds : List Char} (hne : ds ≠ []) (hdigits : ∀ c ∈ ds, isDigit c) :
    Numeral ('+' :: ds) (valueOf ds)
  | minus {ds : List Char} (hne : ds ≠ []) (hdigits : ∀ c ∈ ds, isDigit c) :
    Numeral ('-' :: ds) (-(valueOf ds : Int))

/-- An integer is read from an optional sign and digits, and from nothing else. -/
theorem readInt?_eq_some_iff {cs : List Char} {i : Int} : readInt? cs = some i ↔ Numeral cs i := by
  constructor
  · intro h
    unfold readInt? at h
    -- one sign or none, then the same digits
    split at h
    all_goals
      obtain ⟨k, hk, rfl⟩ := Option.map_eq_some_iff.1 h
      obtain ⟨n, hn, hcast⟩ := Option.bind_eq_some_iff.1 hk
      obtain ⟨hne, hdigits, rfl⟩ := readNat?_eq_some_iff.1 hn
      obtain rfl := Option.some.inj hcast
    · exact .minus hne hdigits
    · exact .plus hne hdigits
    · exact .unsigned hne hdigits
  · intro h
    cases h with
    | unsigned hne hdigits =>
      have hread := readNat?_eq_some_iff.2 ⟨hne, hdigits, rfl⟩
      unfold readInt?
      split
      · exact absurd (hdigits '-' List.mem_cons_self) (by decide)
      · exact absurd (hdigits '+' List.mem_cons_self) (by decide)
      · rw [hread]
        rfl
    | plus hne hdigits =>
      rw [readInt?, readNat?_eq_some_iff.2 ⟨hne, hdigits, rfl⟩]
      rfl
    | minus hne hdigits =>
      rw [readInt?, readNat?_eq_some_iff.2 ⟨hne, hdigits, rfl⟩]
      rfl

/-- A numeral has characters, and none of them is white space. -/
theorem Numeral.not_blank {cs : List Char} {i : Int} (h : Numeral cs i) :
    cs ≠ [] ∧ ∀ c ∈ cs, isBlank c = false := by
  cases h with
  | unsigned hne hdigits => exact ⟨hne, fun c hc => isBlank_of_isDigit (hdigits c hc)⟩
  | plus hne hdigits =>
    refine ⟨List.cons_ne_nil _ _, List.forall_mem_cons.2 ⟨by decide, fun c hc => ?_⟩⟩
    exact isBlank_of_isDigit (hdigits c hc)
  | minus hne hdigits =>
    refine ⟨List.cons_ne_nil _ _, List.forall_mem_cons.2 ⟨by decide, fun c hc => ?_⟩⟩
    exact isBlank_of_isDigit (hdigits c hc)

/-- An integer is written as a numeral of itself; with a plus sign it is one too, if positive. -/
theorem numeral_intText (n : Int) : Numeral (intText n).toList n ∧
    (0 < n → Numeral ('+' :: (intText n).toList) n) := by
  cases n with
  | ofNat n =>
    have hdigits : ∀ c ∈ decimal n, isDigit c := fun c => isDigit_of_mem_decimal
    rw [intText, natText, String.toList_ofList]
    constructor
    · have h := Numeral.unsigned (decimal_ne_nil n) hdigits
      rwa [valueOf_decimal] at h
    · intro _
      have h := Numeral.plus (decimal_ne_nil n) hdigits
      rwa [valueOf_decimal] at h
  | negSucc n =>
    have hdigits : ∀ c ∈ decimal (n + 1), isDigit c := fun c => isDigit_of_mem_decimal
    rw [intText, String.toList_ofList]
    refine ⟨?_, fun hpos => absurd hpos (by omega)⟩
    have h := Numeral.minus (decimal_ne_nil (n + 1)) hdigits
    rwa [valueOf_decimal] at h

end PgRole.Text
