import Mathlib.Data.List.Chain
import Mathlib.Data.List.TakeWhile
import PgRole.Interval
import PgRole.Proofs.Text.Digits

/-!
# The style of intervals

The server's own style for an interval names the years, months and days that are not zero and then
the clock, each with its own sign. A part that is positive and stands directly behind a negative one
has an explicit plus sign.

* `isClock_clockText`: the clock of any number of microseconds.
* `text_inStyle_iff`: the text of an interval is in this style but for the plus signs, which it
  never has. So it is in the style exactly when no positive part stands behind a negative one.
-/

namespace PgRole

namespace Interval

/-! ## The style -/

/-- Digits of a number, so many or more; only as many of them as it needs begin with a zero. -/
def IsPadded (width n : Nat) (ds : List Char) : Prop :=
  (∀ c ∈ ds, Text.isDigit c) ∧ Text.valueOf ds = n ∧ width ≤ ds.length ∧
    (width < ds.length → ds.head? ≠ some '0')

/-- Microseconds behind the seconds: a point and up to six digits, the last of which is not zero, or
nothing if there are none. -/
inductive IsFraction : Nat → List Char → Prop
  | none : IsFraction 0 []
  | digits {ds : List Char} (hne : ds ≠ []) (hdigits : ∀ c ∈ ds, Text.isDigit c)
    (hlength : ds.length ≤ 6) (hlast : ds.getLast? ≠ some '0') :
    IsFraction (Text.valueOf ds * 10 ^ (6 - ds.length)) ('.' :: ds)

/-- A number of microseconds as hours, minutes, seconds and a fraction, with a minus sign if it is
negative. -/
inductive IsClock (micros : Int) : List Char → Prop
  | mk {h m s u : Nat} {hours minutes seconds fraction : List Char}
    (hmicros : micros.natAbs = ((h * 60 + m) * 60 + s) * 10 ^ 6 + u)
    (hm : m < 60) (hs : s < 60) (hu : u < 10 ^ 6) (hhours : IsPadded 2 h hours)
    (hminutes : IsPadded 2 m minutes) (hseconds : IsPadded 2 s seconds)
    (hfraction : IsFraction u fraction) :
    IsClock micros ((if micros < 0 then ['-'] else []) ++ hours ++ ':' :: minutes ++
      ':' :: seconds ++ fraction)

/-- A part of an interval: so many units, with the words for one and for more, or the clock. -/
inductive Part where
  | units (n : Int) (one many : String)
  | clock (micros : Int)
  deriving DecidableEq

/-- How much a part is. -/
def Part.amount : Part → Int
  | units n _ _ => n
  | clock micros => micros

/-- The years, months and days that are not zero. -/
def unitParts (i : Interval) : List Part :=
  [Part.units (i.months.toInt.tdiv 12) "year" "years",
    Part.units (i.months.toInt.tmod 12) "mon" "mons",
    Part.units i.days.toInt "day" "days"].filter fun p => p.amount ≠ 0

/-- The parts of an interval: its units, and the clock if it is not zero or there are no units. -/
def parts (i : Interval) : List Part :=
  i.unitParts ++ if i.micros ≠ 0 ∨ i.unitParts = [] then [.clock i.micros.toInt] else []

/-- A part as it is written without a plus sign. The words are for more than one except for exactly
one. -/
inductive Part.Written : Part → List Char → Prop
  | units {n : Int} {one many : String} :
    Written (.units n one many)
      ((Text.intText n).toList ++ ' ' :: (if n = 1 then one else many).toList)
  | clock {micros : Int} {cs : List Char} (h : IsClock micros cs) : Written (.clock micros) cs

/-- Parts as they are written one behind the other, `negative` being whether the part in front is.
With plus signs, a positive part behind a negative one has one. -/
inductive Written (plus : Bool) : Bool → List Part → List (List Char) → Prop
  | nil {negative : Bool} : Written plus negative [] []
  | cons {negative : Bool} {p : Part} {ps : List Part} {cs : List Char} {css : List (List Char)}
    (hp : p.Written cs) (hps : Written plus (decide (p.amount < 0)) ps css) :
    Written plus negative (p :: ps)
      ((if plus ∧ negative ∧ 0 < p.amount then '+' :: cs else cs) :: css)

/-- The text of an interval in the server's style, with or without its plus signs: its parts with a
space between. -/
def InStyle (plus : Bool) (i : Interval) (s : String) : Prop :=
  ∃ css, Written plus false i.parts css ∧ s.toList = [' '].intercalate css

/-! ## Clocks -/

/-- A number written in so many digits or more is padded to that width. -/
theorem isPadded_decimalPadded {width n : Nat} (hwidth : 0 < width) :
    IsPadded width n (Text.decimalPadded width n) := by
  refine ⟨Text.isDigit_of_mem_decimalPadded, Text.valueOf_decimalPadded _ _,
    Text.le_length_decimalPadded _ _, fun hlong => ?_⟩
  have hlength : width < (Text.decimal n).length := by
    rw [Text.decimalPadded, Text.padZero, List.length_append, List.length_replicate] at hlong
    omega
  have hpositive : 0 < n := by
    by_contra hzero
    have hone : (Text.decimal n).length ≤ 0 + 1 := Text.length_decimal_le (by omega)
    omega
  have hpadded : Text.decimalPadded width n = Text.decimal n := by
    rw [Text.decimalPadded, Text.padZero, Nat.sub_eq_zero_of_le (Nat.le_of_lt hlength)]
    rfl
  obtain ⟨c, r, hcons, hc⟩ := Text.exists_cons_digitsOnto hpositive []
  have hdecimal : Text.decimal n = c :: r := hcons
  rw [hpadded, hdecimal]
  simpa using hc

theorem valueOf_append_zeros (ds : List Char) (k : Nat) :
    Text.valueOf (ds ++ List.replicate k '0') = Text.valueOf ds * 10 ^ k := by
  have hzeros : Text.valueOf (List.replicate k '0') = 0 := by
    have := Text.valueOf_zeros_append k []
    rwa [List.append_nil] at this
  rw [Text.valueOf_append, List.length_replicate, hzeros, Nat.add_zero]

/-- Digits are those up to the last that is not zero, and zeros. -/
theorem exists_zeros (ds : List Char) :
    ∃ k, ds = (ds.reverse.dropWhile (· = '0')).reverse ++ List.replicate k '0' := by
  refine ⟨(ds.reverse.takeWhile (· = '0')).length, ?_⟩
  have hzeros : ds.reverse.takeWhile (· = '0') =
      List.replicate (ds.reverse.takeWhile (· = '0')).length '0' :=
    List.eq_replicate_iff.2 ⟨rfl, fun c hc => by simpa using List.mem_takeWhile_imp hc⟩
  rw [← List.reverse_replicate, ← hzeros, ← List.reverse_append, List.takeWhile_append_dropWhile,
    List.reverse_reverse]

/-- Microseconds are six digits without the zeros at the end, behind a point if any are left. -/
theorem isFraction_fractionText {u : Nat} (hu : u < 10 ^ 6) : IsFraction u (fractionText u) := by
  unfold fractionText
  split
  · rename_i hzero
    rw [hzero]
    exact .none
  · rename_i hpositive
    -- the six digits less the zeros at their end
    obtain ⟨k, hk⟩ := exists_zeros (Text.decimalPadded 6 u)
    generalize hds : ((Text.decimalPadded 6 u).reverse.dropWhile (· = '0')).reverse = ds at hk
    have hlength : ds.length + k = 6 := by
      have := Text.length_decimalPadded (k := 5) hu
      rw [hk, List.length_append, List.length_replicate] at this
      exact this
    have hvalue : u = Text.valueOf ds * 10 ^ (6 - ds.length) := by
      have := Text.valueOf_decimalPadded 6 u
      rw [hk, valueOf_append_zeros] at this
      rw [← this]
      congr 2
      omega
    have hne : ds ≠ [] := by
      rintro rfl
      exact hpositive (by rw [hvalue]; exact Nat.zero_mul _)
    have hdigits : ∀ c ∈ ds, Text.isDigit c := fun c hc => by
      have hmem : c ∈ Text.decimalPadded 6 u := by
        rw [hk]
        exact List.mem_append_left _ hc
      exact Text.isDigit_of_mem_decimalPadded c hmem
    have hlast : ds.getLast? ≠ some '0' := by
      rw [← hds, List.getLast?_reverse]
      intro h
      have hhead := List.head?_dropWhile_not (· = '0') (Text.decimalPadded 6 u).reverse
      rw [h] at hhead
      simp at hhead
    rw [hvalue]
    exact .digits hne hdigits (by omega) hlast

/-- Microseconds are written as a clock. -/
theorem isClock_clockText (micros : Int) : IsClock micros (clockText micros).toList := by
  rw [clockText, String.toList_ofList]
  exact .mk (by omega) (Nat.mod_lt _ (by decide)) (Nat.mod_lt _ (by decide))
    (Nat.mod_lt _ (by decide)) (isPadded_decimalPadded (by decide))
    (isPadded_decimalPadded (by decide)) (isPadded_decimalPadded (by decide))
    (isFraction_fractionText (Nat.mod_lt _ (by decide)))

/-! ## Parts -/

/-- The characters of a part. -/
def Part.chars : Part → List Char
  | units n one many => (Text.intText n).toList ++ ' ' :: (if n = 1 then one else many).toList
  | clock micros => (clockText micros).toList

theorem Part.written_chars (p : Part) : p.Written p.chars := by
  cases p with
  | units n one many => exact .units
  | clock micros => exact .clock (isClock_clockText micros)

theorem map_unitText (n : Int) (one many : String) (ps : List Part) :
    (unitText n one many).map String.toList ++ (ps.filter fun p => p.amount ≠ 0).map Part.chars =
      ((Part.units n one many :: ps).filter fun p => p.amount ≠ 0).map Part.chars := by
  unfold unitText
  by_cases hzero : n = 0
  · simp [hzero, Part.amount]
  · simp [hzero, Part.amount, Part.chars]

theorem map_unitTexts (i : Interval) :
    i.unitTexts.map String.toList = i.unitParts.map Part.chars := by
  rw [unitTexts, unitParts, List.map_append, List.map_append, List.append_assoc, ← map_unitText,
    ← map_unitText, ← map_unitText]
  simp

/-- The text of an interval has the characters of its parts with spaces between. -/
theorem toList_text (i : Interval) :
    i.text.toList = [' '].intercalate (i.parts.map Part.chars) := by
  have hempty : i.unitTexts = [] ↔ i.unitParts = [] := by
    rw [← List.map_eq_nil_iff (f := String.toList), map_unitTexts, List.map_eq_nil_iff]
  have hclock : i.micros ≠ 0 ∨ i.unitTexts = [] ↔ i.micros ≠ 0 ∨ i.unitParts = [] :=
    or_congr_right hempty
  rw [text, String.toList_intercalate, parts, List.map_append, List.map_append, map_unitTexts]
  by_cases h : i.micros ≠ 0 ∨ i.unitParts = []
  · rw [if_pos (hclock.2 h), if_pos h]
    rfl
  · rw [if_neg (mt hclock.1 h), if_neg h]
    rfl

/-! ## Plus signs -/

theorem plus_not_mem_intText (n : Int) : '+' ∉ (Text.intText n).toList := by
  have hdecimal (k : Nat) : '+' ∉ Text.decimal k := fun h =>
    absurd (Text.isDigit_of_mem_decimal h) (by decide)
  cases n with
  | ofNat n => simpa [Text.intText, Text.natText] using hdecimal n
  | negSucc n => simpa [Text.intText] using hdecimal (n + 1)

theorem plus_not_mem_fraction {u : Nat} {cs : List Char} (h : IsFraction u cs) : '+' ∉ cs := by
  cases h with
  | none => exact List.not_mem_nil
  | digits _ hdigits =>
    rw [List.mem_cons, not_or]
    exact ⟨by decide, fun hmem => absurd (hdigits _ hmem) (by decide)⟩

theorem plus_not_mem_clock {micros : Int} {cs : List Char} (h : IsClock micros cs) : '+' ∉ cs := by
  have hpadded {width n : Nat} {ds : List Char} (hds : IsPadded width n ds) : '+' ∉ ds :=
    fun hmem => absurd (hds.1 _ hmem) (by decide)
  cases h with
  | mk _ _ _ _ hhours hminutes hseconds hfraction =>
    have hsign : '+' ∉ if micros < 0 then ['-'] else [] := by split <;> decide
    simp only [List.append_assoc, List.cons_append, List.mem_append, List.mem_cons, not_or]
    exact ⟨hsign, hpadded hhours, by decide, hpadded hminutes, by decide, hpadded hseconds,
      plus_not_mem_fraction hfraction⟩

/-- No part of an interval is written with a plus sign. -/
theorem plus_not_mem_chars {i : Interval} {p : Part} (hp : p ∈ i.parts) : '+' ∉ p.chars := by
  have hunits {n : Int} {one many : String} (hone : '+' ∉ one.toList) (hmany : '+' ∉ many.toList) :
      '+' ∉ (Part.units n one many).chars := by
    rw [Part.chars, List.mem_append, List.mem_cons, not_or, not_or]
    refine ⟨plus_not_mem_intText n, by decide, ?_⟩
    split
    · exact hone
    · exact hmany
  rcases List.mem_append.1 hp with hp | hp
  · have hmem := (List.mem_filter.1 hp).1
    simp only [List.mem_cons, List.not_mem_nil, or_false] at hmem
    rcases hmem with rfl | rfl | rfl <;> exact hunits (by decide) (by decide)
  · split at hp
    · obtain rfl := List.mem_singleton.1 hp
      exact plus_not_mem_clock (isClock_clockText _)
    · cases hp

/-- The spaces between texts apart, their characters are those of the texts. -/
theorem mem_intercalate_iff {c : Char} (hc : c ≠ ' ') {css : List (List Char)} :
    c ∈ [' '].intercalate css ↔ ∃ cs ∈ css, c ∈ cs := by
  induction css with
  | nil => simp
  | cons cs css ih =>
    cases css with
    | nil => simp [List.intercalate_singleton]
    | cons cs' css =>
      rw [List.intercalate_cons_cons, List.mem_append, List.mem_append, List.mem_singleton, ih]
      simp [hc]

/-- No text of an interval has a plus sign. -/
theorem plus_not_mem_text (i : Interval) : '+' ∉ i.text.toList := by
  rw [toList_text, mem_intercalate_iff (by decide)]
  rintro ⟨cs, hcs, h⟩
  obtain ⟨p, hp, rfl⟩ := List.mem_map.1 hcs
  exact plus_not_mem_chars hp h

/-! ## The text and the style -/

/-- A part that is not negative, or behind which none is positive. -/
def Part.Unmarked (p q : Part) : Prop := ¬ (p.amount < 0 ∧ 0 < q.amount)

theorem written_false (negative : Bool) (ps : List Part) :
    Written false negative ps (ps.map Part.chars) := by
  induction ps generalizing negative with
  | nil => exact .nil
  | cons p ps ih =>
    have hwritten : Written false negative (p :: ps) (_ :: ps.map Part.chars) :=
      .cons p.written_chars (ih (decide (p.amount < 0)))
    rwa [if_neg (by simp)] at hwritten

/-- Where no positive part stands behind a negative one, no part has a plus sign. -/
theorem written_true {negative : Bool} {ps : List Part}
    (hfirst : ∀ p ∈ ps.head?, ¬ (negative ∧ 0 < p.amount)) (h : ps.IsChain Part.Unmarked) :
    Written true negative ps (ps.map Part.chars) := by
  induction ps generalizing negative with
  | nil => exact .nil
  | cons p ps ih =>
    obtain ⟨hnext, h⟩ := List.isChain_cons.1 h
    have hrest : Written true (decide (p.amount < 0)) ps (ps.map Part.chars) :=
      ih (by simpa [Part.Unmarked] using hnext) h
    have hwritten : Written true negative (p :: ps) (_ :: ps.map Part.chars) :=
      .cons p.written_chars hrest
    rwa [if_neg (by simpa using hfirst p rfl)] at hwritten

/-- Where no part has a plus sign, no positive part stands behind a negative one. -/
theorem isChain_of_written {negative : Bool} {ps : List Part} {css : List (List Char)}
    (h : Written true negative ps css) (hplus : ∀ cs ∈ css, '+' ∉ cs) :
    (∀ p ∈ ps.head?, ¬ (negative ∧ 0 < p.amount)) ∧ ps.IsChain Part.Unmarked := by
  induction h with
  | nil => exact ⟨by simp, .nil⟩
  | cons hp _ ih =>
    obtain ⟨hfirst, hplus⟩ := List.forall_mem_cons.1 hplus
    obtain ⟨hnext, hchain⟩ := ih hplus
    refine ⟨?_, List.isChain_cons.2 ⟨by simpa [Part.Unmarked] using hnext, hchain⟩⟩
    rintro _ ⟨⟩ hmarked
    rw [if_pos ⟨rfl, hmarked⟩] at hfirst
    exact hfirst List.mem_cons_self

/-- A text in the style with plus signs is that of an interval whose parts need none. -/
theorem isChain_of_inStyle {i : Interval} (h : i.InStyle true i.text) :
    i.parts.IsChain Part.Unmarked := by
  obtain ⟨css, hwritten, htext⟩ := h
  refine (isChain_of_written hwritten fun cs hcs hmem => i.plus_not_mem_text ?_).2
  rw [htext, mem_intercalate_iff (by decide)]
  exact ⟨cs, hcs, hmem⟩

/-- The text of an interval is in the server's style without plus signs. It is in the style with
them exactly when no positive part stands directly behind a negative one. -/
theorem text_inStyle_iff (i : Interval) :
    i.InStyle false i.text ∧ (i.InStyle true i.text ↔ i.parts.IsChain Part.Unmarked) :=
  ⟨⟨_, written_false false i.parts, i.toList_text⟩, isChain_of_inStyle,
    fun h => ⟨_, written_true (by simp) h, i.toList_text⟩⟩

/-- Three days less a month: the days lack a plus sign. -/
theorem text_not_inStyle :
    let i : Interval := ⟨-1, 3, 0⟩
    i.text = "-1 mons 3 days" ∧ i.InStyle true "-1 mons +3 days" ∧ ¬ i.InStyle true i.text := by
  intro i
  have hparts : i.parts = [.units (-1) "mon" "mons", .units 3 "day" "days"] := by decide
  obtain ⟨css, hwritten, hcss⟩ : ∃ css, Written true false i.parts css ∧
      css = ["-1 mons".toList, "+3 days".toList] := by
    rw [hparts]
    exact ⟨_, .cons .units (.cons .units .nil), by decide +kernel⟩
  refine ⟨by decide +kernel, ⟨css, hwritten, ?_⟩, fun h => ?_⟩
  · rw [hcss]
    rfl
  · have hchain := isChain_of_inStyle h
    rw [hparts, List.isChain_pair] at hchain
    exact hchain (by decide)

end Interval

end PgRole
