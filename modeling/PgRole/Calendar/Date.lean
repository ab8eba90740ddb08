import PgRole.Text.Digits

/-!
# Dates

Dates of the proleptic Gregorian calendar, from the year -262143 to the year 262142. A date knows
its number of days from 2000-01-01 (`Date.toDays`), and a number of days within the range is a
date (`Date.ofDays?`). A year outside 0 to 9999 is written with its sign.
-/

namespace PgRole.Calendar

/-- The least year of a date. -/
def minYear : Int := -262143

/-- The greatest year of a date. -/
def maxYear : Int := 262142

/-- Whether a year has 366 days. -/
def isLeap (y : Int) : Bool := y % 4 == 0 && (y % 100 != 0 || y % 400 == 0)

/-- The days of a month. -/
def daysInMonth (y : Int) (m : Nat) : Nat :=
  if m = 2 then (if isLeap y then 29 else 28)
  else if m = 4 ∨ m = 6 ∨ m = 9 ∨ m = 11 then 30
  else 31

/-- Whether there is a date of these parts. -/
def isDate (y : Int) (m d : Nat) : Bool :=
  decide (minYear ≤ y) && decide (y ≤ maxYear) && decide (1 ≤ m) && decide (m ≤ 12) &&
    decide (1 ≤ d) && decide (d ≤ daysInMonth y m)

/-- A date. -/
structure Date where
  year : Int
  month : Nat
  day : Nat
  valid : isDate year month day = true
  deriving DecidableEq

namespace Date

/-- The date of parts, if there is one. -/
def of? (y : Int) (m d : Nat) : Option Date :=
  if h : isDate y m d = true then some ⟨y, m, d, h⟩ else none

/-- The days from the first of March of the year 0 to 2000-01-01. -/
def epochDays : Int := 730425

/-- The years of 365 or 366 days that begin in March: the year such a year counts as. -/
def marchYear (d : Date) : Int := if d.month ≤ 2 then d.year - 1 else d.year

/-- The place of a month in a year that begins in March. -/
def marchMonth (d : Date) : Nat := if d.month ≤ 2 then d.month + 9 else d.month - 3

/-- The days in front of a month in a year that begins in March. -/
def daysBefore (marchMonth : Nat) : Nat := (153 * marchMonth + 2) / 5

/-- The days from 2000-01-01 to a date. -/
def toDays (d : Date) : Int :=
  let y := d.marchYear
  365 * y + y.fdiv 4 - y.fdiv 100 + y.fdiv 400 + daysBefore d.marchMonth + d.day - 1 - epochDays

/-- The date so many days after 2000-01-01, if it is in range. Years are counted from March within
an era of 400 years. -/
def ofDays? (n : Int) : Option Date :=
  let z := n + epochDays
  let era := z.fdiv 146097
  let inEra := (z - era * 146097).toNat
  let year := (inEra - inEra / 1460 + inEra / 36524 - inEra / 146096) / 365
  let inYear := inEra - (365 * year + year / 4 - year / 100)
  let month := (5 * inYear + 2) / 153
  let day := inYear - daysBefore month + 1
  let y : Int := era * 400 + year
  if month < 10 then of? y (month + 3) day else of? (y + 1) (month - 9) day

/-- A year as text: four digits, or a sign and four digits or more. -/
def yearText (y : Int) : List Char :=
  if 0 ≤ y ∧ y ≤ 9999 then Text.decimalPadded 4 y.natAbs
  else (if y < 0 then '-' else '+') :: Text.decimalPadded 4 y.natAbs

/-- The characters of a date. -/
def chars (d : Date) : List Char :=
  yearText d.year ++ '-' :: Text.decimalPadded 2 d.month ++ '-' :: Text.decimalPadded 2 d.day

/-- The text of a date. -/
def text (d : Date) : String := String.ofList d.chars

example : (ofDays? 0).map text = some "2000-01-01" := by decide +kernel
example : (ofDays? (-730119)).map text = some "0001-01-01" := by decide +kernel
example : (ofDays? (-730486)).map text = some "-0001-12-31" := by decide +kernel
example : (of? 2024 2 29).map toDays = some 8825 := by decide +kernel
example : of? 2023 2 29 = none := by decide

end Date

end PgRole.Calendar
