import Mathlib.Tactic.Ring
import PgRole.Calendar.Date

/-!
# Days and dates

A date found from a number of days has that number of days (`toDays_of_ofDays?`). Years are counted
from March, so that the leap day is the last of its year and a year of an era begins
`365 y + y / 4 - y / 100` days after the era does (`yearOfEra_spec`).
-/

namespace PgRole.Calendar.Date

/-- The year of an era that a day of the era lies in: the day is one of its 366 or fewer. -/
theorem yearOfEra_spec {a y : Nat} (ha : a < 146097)
    (hy : y = (a - a / 1460 + a / 36524 - a / 146096) / 365) :
    y < 400 ∧ 365 * y + y / 4 - y / 100 ≤ a ∧ a - (365 * y + y / 4 - y / 100) ≤ 365 := by
  -- the last day of an era is the leap day of a century of its own
  by_cases hlast : a = 146096
  · subst hlast
    subst hy
    decide
  obtain ⟨c, q, r, hc, hcentury, hr, hday⟩ :
      ∃ c q r, c ≤ 3 ∧ 1461 * q + r < 36524 ∧ r ≤ 1460 ∧ a = 36524 * c + (1461 * q + r) :=
    ⟨a / 36524, a % 36524 / 1461, a % 36524 % 1461, by omega, by omega, by omega, by omega⟩
  obtain ⟨t, ht, hlow, hhigh, hyear⟩ :
      ∃ t, t ≤ 3 ∧ 365 * t ≤ r ∧ r ≤ 365 * t + 365 ∧ y = 100 * c + 4 * q + t := by
    have hcenturies : a / 36524 = c := by omega
    have hera : a / 146096 = 0 := by omega
    rcases Nat.lt_or_ge (24 * c + q + r) 1460 with hcount | hcount
    · have hleaps : a / 1460 = 25 * c + q := by omega
      exact ⟨r / 365, by omega, by omega, by omega, by omega⟩
    · have hleaps : a / 1460 = 25 * c + q + 1 := by omega
      exact ⟨3, by omega, by omega, by omega, by omega⟩
  have hfours : y / 4 = 25 * c + q := by omega
  have hhundreds : y / 100 = c := by omega
  omega

theorem parts_lt (d : Date) : d.month < 100 ∧ d.day < 100 := by
  have hvalid := d.valid
  have hlength : daysInMonth d.year d.month ≤ 31 := by
    unfold daysInMonth
    split <;> (try split) <;> omega
  simp only [isDate, Bool.and_eq_true, decide_eq_true_eq] at hvalid
  omega

/-- The days in front of a year, by its era and its year in it. -/
theorem daysBeforeYear (era : Int) {y : Nat} (hy : y < 400) :
    365 * (era * 400 + y) + (era * 400 + y).fdiv 4 - (era * 400 + y).fdiv 100 +
      (era * 400 + y).fdiv 400 = 146097 * era + 365 * y + (y / 4 : Nat) - (y / 100 : Nat) := by
  have hfours : (era * 400 + y).fdiv 4 = 100 * era + (y / 4 : Nat) := by
    rw [Int.fdiv_eq_ediv_of_nonneg _ (by decide)]
    omega
  have hhundreds : (era * 400 + y).fdiv 100 = 4 * era + (y / 100 : Nat) := by
    rw [Int.fdiv_eq_ediv_of_nonneg _ (by decide)]
    omega
  have heras : (era * 400 + y).fdiv 400 = era := by
    rw [Int.fdiv_eq_ediv_of_nonneg _ (by decide)]
    omega
  rw [hfours, hhundreds, heras]
  ring

/-- The place of a day in its month, counted from March. -/
theorem daysBefore_le {inYear month : Nat} (h : month = (5 * inYear + 2) / 153) :
    daysBefore month ≤ inYear := by
  unfold daysBefore
  omega

/-- Fields that form a date are those of the date. -/
theorem of?_eq_some {y : Int} {m d : Nat} {x : Date} (h : of? y m d = some x) :
    x.year = y ∧ x.month = m ∧ x.day = d := by
  unfold of? at h
  split at h
  · cases h
    exact ⟨rfl, rfl, rfl⟩
  · cases h

theorem of?_self (d : Date) : of? d.year d.month d.day = some d := dif_pos d.valid

/-- The date so many days after the first has so many days. -/
theorem toDays_of_ofDays? {n : Int} {d : Date} (h : ofDays? n = some d) : d.toDays = n := by
  unfold ofDays? at h
  simp only [Int.fdiv_eq_ediv_of_nonneg _ (by decide : (0 : Int) ≤ 146097)] at h
  generalize hz : n + epochDays = z at h
  generalize hera : z / 146097 = era at h
  generalize ha : (z - era * 146097).toNat = a at h
  generalize hy : (a - a / 1460 + a / 36524 - a / 146096) / 365 = y at h
  have haz : (a : Int) = z - era * 146097 ∧ a < 146097 := by
    clear hy h
    omega
  obtain ⟨hcount, hbegin, hend⟩ := yearOfEra_spec haz.2 hy.symm
  generalize hin : a - (365 * y + y / 4 - y / 100) = inYear at h hend
  generalize hm : (5 * inYear + 2) / 153 = month at h
  have hbefore := daysBefore_le hm.symm
  have hyears := daysBeforeYear era hcount
  have hmonth : month ≤ 11 := by
    clear hy h
    omega
  -- it is enough that the parts are found again: how many days they count is known of each
  suffices hparts : d.marchYear = era * 400 + y ∧ d.marchMonth = month ∧
      d.day = inYear - daysBefore month + 1 by
    obtain ⟨hyear, hplace, hday⟩ := hparts
    have hdays : d.toDays = 146097 * era + 365 * y + (y / 4 : Nat) - (y / 100 : Nat) +
        daysBefore month + (inYear - daysBefore month + 1 : Nat) - 1 - epochDays := by
      rw [← hyears, ← hyear, ← hday, ← hplace]
      rfl
    clear hy h hyears
    omega
  split at h
  · obtain ⟨hyear, hplace, hday⟩ := of?_eq_some h
    refine ⟨?_, ?_, hday⟩
    · rw [marchYear, if_neg (by omega), hyear]
    · rw [marchMonth, if_neg (by omega), hplace, Nat.add_sub_cancel]
  · obtain ⟨hyear, hplace, hday⟩ := of?_eq_some h
    refine ⟨?_, ?_, hday⟩
    · rw [marchYear, if_pos (by omega), hyear, add_sub_cancel_right]
    · rw [marchMonth, if_pos (by omega), hplace, Nat.sub_add_cancel (by omega)]

end PgRole.Calendar.Date
