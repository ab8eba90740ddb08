import PgRole.Proofs.Interval
import PgRole.Proofs.Text.Span

/-!
# Intervals read back

A reader for the texts of intervals. The words of a text stand between spaces: a word with colons is
a clock, any other is a number and goes with the name of a unit behind it. Each has its own sign.

* `ofText?_of_inStyle`: what is written in the server's style, with or without its plus signs, reads
  as the interval's months, days and microseconds.
* `text_reads_back`: so does the text of every interval, and no two intervals have one text.
-/

namespace PgRole

namespace Interval

/-! ## The reader -/

/-- Months, days and microseconds, as many as there may be. -/
structure Amounts where
  months : Int
  days : Int
  micros : Int
  deriving DecidableEq

namespace Amounts

instance : Zero Amounts := ⟨⟨0, 0, 0⟩⟩

instance : Add Amounts := ⟨fun a b => ⟨a.months + b.months, a.days + b.days, a.micros + b.micros⟩⟩

theorem zero_def : (0 : Amounts) = ⟨0, 0, 0⟩ := rfl

theorem add_def (a b : Amounts) :
    a + b = ⟨a.months + b.months, a.days + b.days, a.micros + b.micros⟩ := rfl

instance : AddMonoid Amounts where
  add_assoc a b c := by simp only [add_def, add_assoc]
  zero_add a := by simp only [add_def, zero_def, zero_add]
  add_zero a := by simp only [add_def, zero_def, add_zero]
  nsmul := nsmulRec

end Amounts

/-- So many of the unit with a name, a year being twelve months. -/
def unitAmounts? (n : Int) (name : List Char) : Option Amounts :=
  if name ∈ ["year".toList, "years".toList] then some ⟨12 * n, 0, 0⟩
  else if name ∈ ["mon".toList, "mons".toList] then some ⟨n, 0, 0⟩
  else if name ∈ ["day".toList, "days".toList] then some ⟨0, n, 0⟩
  else none

/-- The microseconds of a point and up to six digits. -/
def readFraction? : List Char → Option Nat
  | [] => some 0
  | '.' :: ds => if ds.length ≤ 6 then (Text.readNat? ds).map (· * 10 ^ (6 - ds.length)) else none
  | _ => none

/-- The microseconds of hours, minutes and seconds with colons between them. -/
def readTime? (cs : List Char) : Option Nat :=
  match cs.splitOn ':' with
  | [hours, minutes, seconds] => do
    let h ← Text.readNat? hours
    let m ← Text.readNat? minutes
    let s ← Text.readNat? (seconds.takeWhile Text.isDigit)
    let u ← readFraction? (seconds.dropWhile Text.isDigit)
    pure (((h * 60 + m) * 60 + s) * 10 ^ 6 + u)
  | _ => none

/-- The microseconds of a clock, by its sign. -/
def readClock? : List Char → Option Int
  | '-' :: cs => (readTime? cs).map fun n : Nat => -(n : Int)
  | '+' :: cs => (readTime? cs).map fun n : Nat => (n : Int)
  | cs => (readTime? cs).map fun n : Nat => (n : Int)

/-- What the words of a text come to. -/
def readWords? : List (List Char) → Option Amounts
  | [] => some 0
  | w :: ws =>
    if ':' ∈ w then do
      let micros ← readClock? w
      let a ← readWords? ws
      pure (⟨0, 0, micros⟩ + a)
    else
      match ws with
      | [] => none
      | name :: ws => do
        let n ← Text.readInt? w
        let b ← unitAmounts? n name
        let a ← readWords? ws
        pure (b + a)

theorem readWords?_clock {w : List Char} (h : ':' ∈ w) (ws : List (List Char)) :
    readWords? (w :: ws) =
      (readClock? w).bind fun micros => (readWords? ws).map (⟨0, 0, micros⟩ + ·) := by
  rw [readWords?.eq_def]
  simp only [Option.map_eq_bind]
  exact if_pos h

theorem readWords?_units {w : List Char} (h : ':' ∉ w) (name : List Char) (ws : List (List Char)) :
    readWords? (w :: name :: ws) = (Text.readInt? w).bind fun n =>
      (unitAmounts? n name).bind fun b => (readWords? ws).map (b + ·) := by
  rw [readWords?.eq_def]
  simp only [Option.map_eq_bind]
  exact if_neg h

/-- The amounts of a text. -/
def ofText? (s : String) : Option Amounts := readWords? (s.toList.splitOn ' ')

/-- The amounts of an interval. -/
def amounts (i : Interval) : Amounts := ⟨i.months.toInt, i.days.toInt, i.micros.toInt⟩

example : ofText? "-1 mons +3 days 100:00:00.5" = some ⟨-1, 3, 360000500000⟩ := by decide +kernel

/-- The amounts of an interval make it up again. -/
theorem amounts_injective {i j : Interval} (h : i.amounts = j.amounts) : i = j := by
  obtain ⟨months, days, micros⟩ := i
  obtain ⟨months', days', micros'⟩ := j
  obtain ⟨hmonths, hdays, hmicros⟩ := Amounts.mk.inj h
  obtain rfl : months = months' := Int32.toInt_inj.1 hmonths
  obtain rfl : days = days' := Int32.toInt_inj.1 hdays
  obtain rfl : micros = micros' := Int64.toInt_inj.1 hmicros
  rfl

/-! ## Clocks -/

theorem readFraction?_of_isFraction {u : Nat} {cs : List Char} (h : IsFraction u cs) :
    readFraction? cs = some u := by
  cases h with
  | none => rfl
  | digits hne hdigits hlength _ =>
    rw [readFraction?, if_pos hlength, Text.readNat?_eq_some_iff.2 ⟨hne, hdigits, rfl⟩]
    rfl

theorem IsPadded.readNat? {width n : Nat} {ds : List Char} (hwidth : 0 < width)
    (h : IsPadded width n ds) : Text.readNat? ds = some n := by
  obtain ⟨hdigits, hvalue, hlength, -⟩ := h
  exact Text.readNat?_eq_some_iff.2 ⟨List.ne_nil_of_length_pos (by omega), hdigits, hvalue⟩

theorem IsPadded.not_mem {width n : Nat} {ds : List Char} {c : Char} (hc : Text.isDigit c = false)
    (h : IsPadded width n ds) : c ∉ ds := by
  intro hmem
  rw [h.1 c hmem] at hc
  cases hc

/-- What stands in a fraction is a point or a digit. -/
theorem IsFraction.not_mem {u : Nat} {cs : List Char} {c : Char} (hpoint : c ≠ '.')
    (hc : Text.isDigit c = false) (h : IsFraction u cs) : c ∉ cs := by
  cases h with
  | none => exact List.not_mem_nil
  | digits _ hdigits =>
    rw [List.mem_cons, not_or]
    refine ⟨hpoint, fun hmem => ?_⟩
    rw [hdigits c hmem] at hc
    cases hc

/-- A fraction does not begin with a digit. -/
theorem IsFraction.head {u : Nat} {cs : List Char} (h : IsFraction u cs) :
    ∀ c ∈ cs.head?, Text.isDigit c = false := by
  cases h with
  | none => simp
  | digits =>
    rintro _ ⟨⟩
    decide

/-- A clock is an optional minus sign and a time of digits, colons and a point that reads as its
microseconds. -/
theorem IsClock.exists_time {micros : Int} {cs : List Char} (h : IsClock micros cs) :
    ∃ time, cs = (if micros < 0 then ['-'] else []) ++ time ∧
      readTime? time = some micros.natAbs ∧ ':' ∈ time ∧ ' ' ∉ time ∧
      ∃ c r, time = c :: r ∧ Text.isDigit c := by
  cases h with
  | @mk h m s u hours minutes seconds fraction hmicros _ _ _ hhours hminutes hseconds hfraction =>
    refine ⟨hours ++ ':' :: minutes ++ ':' :: seconds ++ fraction, by simp, ?_, by simp, ?_, ?_⟩
    · have hjoined : hours ++ ':' :: minutes ++ ':' :: seconds ++ fraction =
          [':'].intercalate [hours, minutes, seconds ++ fraction] := by
        simp [List.intercalate_cons_cons, List.intercalate_singleton]
      -- no part has a colon in it, so splitting at the colons gives the parts
      have hcolon : ∀ part ∈ [hours, minutes, seconds ++ fraction], ':' ∉ part := by
        simp only [List.forall_mem_cons, List.mem_append, not_or]
        exact ⟨hhours.not_mem (by decide), hminutes.not_mem (by decide),
          ⟨hseconds.not_mem (by decide), hfraction.not_mem (by decide) (by decide)⟩, by simp⟩
      have hsplit := List.splitOn_intercalate ':' hcolon (by simp)
      rw [readTime?, hjoined, hsplit, hmicros]
      dsimp only
      rw [Text.takeWhile_run hseconds.1 hfraction.head,
        Text.dropWhile_run hseconds.1 hfraction.head, hhours.readNat? (by decide),
        hminutes.readNat? (by decide), hseconds.readNat? (by decide),
        readFraction?_of_isFraction hfraction]
      rfl
    · simp only [List.mem_append, List.mem_cons, not_or]
      exact ⟨⟨⟨hhours.not_mem (by decide), by decide, hminutes.not_mem (by decide)⟩, by decide,
        hseconds.not_mem (by decide)⟩, hfraction.not_mem (by decide) (by decide)⟩
    · have hlength := hhours.2.2.1
      cases hours with
      | nil => simp at hlength
      | cons c hours => exact ⟨c, _, rfl, hhours.1 c List.mem_cons_self⟩

/-- A clock reads as its microseconds, and with a plus sign too unless it has a minus sign. -/
theorem readClock?_of_isClock {micros : Int} {cs : List Char} (h : IsClock micros cs) :
    readClock? cs = some micros ∧ (0 < micros → readClock? ('+' :: cs) = some micros) := by
  obtain ⟨time, rfl, htime, -, -, c, r, hhead, hdigit⟩ := h.exists_time
  by_cases hneg : micros < 0
  · rw [if_pos hneg]
    refine ⟨?_, fun hpos => absurd hpos (by omega)⟩
    rw [List.singleton_append, readClock?, htime, Option.map_some, Option.some.injEq]
    omega
  · rw [if_neg hneg, List.nil_append]
    have habs : (micros.natAbs : Int) = micros := by omega
    have hsign : ∀ sign, Text.isDigit sign = false → ∀ cs, time ≠ sign :: cs := by
      rintro sign hsign cs rfl
      rw [(List.cons.inj hhead).1, hdigit] at hsign
      cases hsign
    constructor
    · rw [readClock?.eq_3 _ (hsign '-' (by decide)) (hsign '+' (by decide)), htime, Option.map_some,
        habs]
    · intro _
      rw [readClock?, htime, Option.map_some, habs]

/-! ## Words -/

/-- A text reads as amounts, in front of any other words. -/
def ReadsAs (cs : List Char) (a : Amounts) : Prop :=
  ∀ ws, readWords? (cs.splitOn ' ' ++ ws) = (readWords? ws).map (a + ·)

theorem readsAs_clock {cs : List Char} {micros : Int} (hcolon : ':' ∈ cs) (hspace : ' ' ∉ cs)
    (h : readClock? cs = some micros) : ReadsAs cs ⟨0, 0, micros⟩ := by
  intro ws
  rw [List.splitOn_eq_singleton hspace, List.singleton_append, readWords?_clock hcolon, h,
    Option.bind_some]

/-- A number in front of the name of a unit is read as its amount. -/
theorem readsAs_units {ds name : List Char} {n : Int} {a : Amounts} (h : Text.Numeral ds n)
    (hspace : ' ' ∉ name) (hname : unitAmounts? n name = some a) :
    ReadsAs (ds ++ ' ' :: name) a := by
  intro ws
  have hblank : ' ' ∉ ds := fun hmem => absurd (h.not_blank.2 ' ' hmem) (by decide)
  have hcolon : ':' ∉ ds := by
    cases h with
    | unsigned _ hdigits => exact fun hmem => absurd (hdigits ':' hmem) (by decide)
    | plus _ hdigits =>
      rw [List.mem_cons, not_or]
      exact ⟨by decide, fun hmem => absurd (hdigits ':' hmem) (by decide)⟩
    | minus _ hdigits =>
      rw [List.mem_cons, not_or]
      exact ⟨by decide, fun hmem => absurd (hdigits ':' hmem) (by decide)⟩
  rw [List.splitOn_append_cons_self, List.splitOn_eq_singleton hblank,
    List.splitOn_eq_singleton hspace, List.singleton_append, List.cons_append,
    List.singleton_append, readWords?_units hcolon, Text.readInt?_eq_some_iff.2 h, Option.bind_some,
    hname, Option.bind_some]

/-- Texts with spaces between them read as the sum of what each reads as. -/
theorem readWords?_intercalate {css : List (List Char)} {as : List Amounts}
    (h : List.Forall₂ ReadsAs css as) (hne : css ≠ []) :
    readWords? (([' '].intercalate css).splitOn ' ') = some as.sum := by
  induction h with
  | nil => exact absurd rfl hne
  | @cons cs a css as hcs h ih =>
    cases h with
    | nil =>
      have hread := hcs []
      rw [List.append_nil] at hread
      rw [List.intercalate_singleton, hread]
      rfl
    | cons hcs' h =>
      rw [List.intercalate_cons_cons, List.append_assoc, List.singleton_append,
        List.splitOn_append_cons_self, hcs, ih (by simp)]
      rfl

/-! ## Texts in the style -/

/-- The amounts of a part. -/
def Part.amounts : Part → Amounts
  | units n one _ => (unitAmounts? n one.toList).getD 0
  | clock micros => ⟨0, 0, micros⟩

/-- Both words for the units of an interval are names of that unit. -/
theorem unitAmounts?_of_mem_parts {i : Interval} {n : Int} {one many : String}
    (h : Part.units n one many ∈ i.parts) : ∀ name ∈ [one, many], ' ' ∉ name.toList ∧
      unitAmounts? n name.toList = some (Part.units n one many).amounts := by
  have hunits : Part.units n one many ∈ i.unitParts := by
    rcases List.mem_append.1 h with h | h
    · exact h
    · split at h
      · cases List.mem_singleton.1 h
      · cases h
  have hthree := (List.mem_filter.1 hunits).1
  simp only [List.mem_cons, List.not_mem_nil, or_false, Part.units.injEq] at hthree
  rcases hthree with ⟨-, rfl, rfl⟩ | ⟨-, rfl, rfl⟩ | ⟨-, rfl, rfl⟩ <;>
    exact List.forall_mem_cons.2 ⟨⟨by decide, rfl⟩, List.forall_mem_singleton.2 ⟨by decide, rfl⟩⟩

/-- A part of an interval reads as its amounts, with a plus sign too if it is positive. -/
theorem Part.Written.readsAs {i : Interval} {p : Part} (hp : p ∈ i.parts) {cs : List Char}
    (h : p.Written cs) : ReadsAs cs p.amounts ∧ (0 < p.amount → ReadsAs ('+' :: cs) p.amounts) := by
  cases h with
  | @units n one many =>
    have hnames := unitAmounts?_of_mem_parts hp
    have hname : ' ' ∉ (if n = 1 then one else many).toList ∧
        unitAmounts? n (if n = 1 then one else many).toList =
          some (Part.units n one many).amounts := by
      split
      · exact hnames one (by simp)
      · exact hnames many (by simp)
    obtain ⟨hnumeral, hplus⟩ := Text.numeral_intText n
    exact ⟨readsAs_units hnumeral hname.1 hname.2,
      fun hpos => readsAs_units (hplus hpos) hname.1 hname.2⟩
  | @clock micros _ h =>
    obtain ⟨time, rfl, -, hcolon, hspace, -⟩ := h.exists_time
    obtain ⟨hread, hplus⟩ := readClock?_of_isClock h
    have hcolon' : ':' ∈ (if micros < 0 then ['-'] else []) ++ time :=
      List.mem_append_right _ hcolon
    have hspace' : ' ' ∉ (if micros < 0 then ['-'] else []) ++ time := by
      rw [List.mem_append, not_or]
      exact ⟨by split <;> decide, hspace⟩
    refine ⟨readsAs_clock hcolon' hspace' hread, fun hpos => ?_⟩
    refine readsAs_clock (List.mem_cons_of_mem _ hcolon') ?_ (hplus hpos)
    rw [List.mem_cons, not_or]
    exact ⟨by decide, hspace'⟩

/-- Parts that are written one behind the other read as their amounts. -/
theorem Written.readsAs {i : Interval} {plus negative : Bool} {ps : List Part}
    {css : List (List Char)} (h : Written plus negative ps css) (hps : ∀ p ∈ ps, p ∈ i.parts) :
    List.Forall₂ ReadsAs css (ps.map Part.amounts) := by
  induction h with
  | nil => exact .nil
  | cons hp _ ih =>
    obtain ⟨hmem, hps⟩ := List.forall_mem_cons.1 hps
    refine .cons ?_ (ih hps)
    obtain ⟨hbare, hmarked⟩ := hp.readsAs hmem
    split
    · rename_i hmark
      exact hmarked hmark.2.2
    · exact hbare

/-- Units of which there are none are left out, and add nothing. -/
theorem sum_amounts_unitParts (i : Interval) :
    (i.unitParts.map Part.amounts).sum = ⟨i.months.toInt, i.days.toInt, 0⟩ := by
  have hcons (p : Part) (hzero : p.amount = 0 → p.amounts = 0) (ps : List Part) :
      (((p :: ps).filter fun p => p.amount ≠ 0).map Part.amounts).sum =
        p.amounts + ((ps.filter fun p => p.amount ≠ 0).map Part.amounts).sum := by
    by_cases h : p.amount = 0
    · rw [List.filter_cons_of_neg (by simpa using h), hzero h, zero_add]
    · rw [List.filter_cons_of_pos (by simpa using h), List.map_cons, List.sum_cons]
  have hyears (n : Int) : (Part.units n "year" "years").amounts = ⟨12 * n, 0, 0⟩ := rfl
  have hmons (n : Int) : (Part.units n "mon" "mons").amounts = ⟨n, 0, 0⟩ := rfl
  have hdays (n : Int) : (Part.units n "day" "days").amounts = ⟨0, n, 0⟩ := rfl
  have hmonths := Int.mul_tdiv_add_tmod i.months.toInt 12
  rw [unitParts, hcons, hcons, hcons, hyears, hmons, hdays]
  · simp [Amounts.add_def, Amounts.zero_def, hmonths]
  all_goals
    intro hzero
    simp only [Part.amount] at hzero
    rw [hzero]
    rfl

/-- The amounts of an interval are those of its parts together. -/
theorem sum_amounts_parts (i : Interval) : (i.parts.map Part.amounts).sum = i.amounts := by
  unfold parts amounts
  rw [List.map_append, List.sum_append, sum_amounts_unitParts]
  split
  · simp [Part.amounts, Amounts.add_def]
  · rename_i h
    have hmicros : i.micros = 0 := by
      by_contra hne
      exact h (.inl hne)
    simp [hmicros, Amounts.add_def, Amounts.zero_def]

theorem parts_ne_nil (i : Interval) : i.parts ≠ [] := by
  unfold parts
  by_cases h : i.micros ≠ 0 ∨ i.unitParts = []
  · simp [h]
  · rw [not_or] at h
    simp [h.2]

/-- What is written in the server's style reads as the interval. -/
theorem ofText?_of_inStyle {i : Interval} {plus : Bool} {s : String} (h : i.InStyle plus s) :
    ofText? s = some i.amounts := by
  obtain ⟨css, hwritten, hs⟩ := h
  have hread := hwritten.readsAs (i := i) fun _ hp => hp
  have hne : css ≠ [] := by
    rintro rfl
    exact i.parts_ne_nil (List.map_eq_nil_iff.1 (List.forall₂_nil_left_iff.1 hread))
  rw [ofText?, hs, readWords?_intercalate hread hne, sum_amounts_parts]

/-- The text of an interval reads as its months, years being twelve each, its days and its
microseconds. So no two intervals have the same text. -/
theorem text_reads_back (i : Interval) :
    ofText? i.text = some ⟨i.months.toInt, i.days.toInt, i.micros.toInt⟩ ∧
      ∀ j : Interval, i.text = j.text ↔ i = j := by
  have hread (i : Interval) : ofText? i.text = some i.amounts :=
    ofText?_of_inStyle ⟨_, written_false false i.parts, i.toList_text⟩
  refine ⟨hread i, fun j => ⟨fun h => ?_, congrArg text⟩⟩
  have hsame := hread i
  rw [h, hread j] at hsame
  exact amounts_injective (Option.some.inj hsame.symm)

end Interval

end PgRole
