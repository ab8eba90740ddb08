import PgRole.Text.Digits

/-!
# Intervals

A span of time in months, days and microseconds, none of which can be turned into another. The text
names years, months and days that are not zero, each with its own sign, and then the hours, minutes
and seconds; an interval of nothing is `00:00:00`.
-/

namespace PgRole

/-- A span of time. -/
structure Interval where
  months : Int32
  days : Int32
  micros : Int64
  deriving DecidableEq

namespace Interval

/-- A number of units, unless it is zero. -/
def unitText (n : Int) (one many : String) : List String :=
  if n = 0 then [] else [Text.intText n ++ " " ++ if n = 1 then one else many]

/-- The digits of a fraction of a second, without zeros at the end. -/
def fractionText (micros : Nat) : List Char :=
  if micros = 0 then []
  else '.' :: ((Text.decimalPadded 6 micros).reverse.dropWhile (· = '0')).reverse

/-- Microseconds as hours, minutes and seconds. -/
def clockText (micros : Int) : String :=
  let n := micros.natAbs
  let seconds := n / 1000000
  String.ofList ((if micros < 0 then ['-'] else []) ++ Text.decimalPadded 2 (seconds / 3600) ++
    ':' :: Text.decimalPadded 2 (seconds / 60 % 60) ++ ':' :: Text.decimalPadded 2 (seconds % 60) ++
    fractionText (n % 1000000))

/-- The units of an interval as text. -/
def unitTexts (i : Interval) : List String :=
  unitText (i.months.toInt.tdiv 12) "year" "years" ++
    unitText (i.months.toInt.tmod 12) "mon" "mons" ++ unitText i.days.toInt "day" "days"

/-- The text of an interval. -/
def text (i : Interval) : String :=
  let units := i.unitTexts
  let clock := if i.micros ≠ 0 ∨ units = [] then [clockText i.micros.toInt] else []
  " ".intercalate (units ++ clock)

example : (⟨14, 3, 0⟩ : Interval).text = "1 year 2 mons 3 days" := by decide +kernel
example : (⟨0, 0, 0⟩ : Interval).text = "00:00:00" := by decide +kernel
example : (⟨-1, 0, -60000000⟩ : Interval).text = "-1 mons -00:01:00" := by decide +kernel
example : (⟨0, 2, 3723500000⟩ : Interval).text = "2 days 01:02:03.5" := by decide +kernel

end Interval

end PgRole
