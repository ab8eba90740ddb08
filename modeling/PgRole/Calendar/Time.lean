import PgRole.Calendar.Date

/-!
# Times of day and moments

A time of day has hours, minutes, seconds and nanoseconds; the second 60 is a leap second. A moment
is a date and a time; as an instant it is read in Coordinated Universal Time. Fractions are written
with as few of 0, 3, 6 or 9 digits as are exact.
-/

namespace PgRole.Calendar

/-- A time of day. -/
structure Time where
  hour : Nat
  minute : Nat
  second : Nat
  nano : Nat
  valid : hour < 24 ∧ minute < 60 ∧ second ≤ 60 ∧ nano < 1000000000
  deriving DecidableEq

namespace Time

/-- The time of parts, if there is one. -/
def of? (hour minute second nano : Nat) : Option Time :=
  if h : hour < 24 ∧ minute < 60 ∧ second ≤ 60 ∧ nano < 1000000000 then
    some ⟨hour, minute, second, nano, h⟩
  else none

/-- The start of the day. -/
def midnight : Time := ⟨0, 0, 0, 0, by decide⟩

/-- The microseconds of a day. -/
def dayMicros : Nat := 86400000000

/-- The time so many microseconds after midnight, by the day. -/
def ofMicros (n : Int) : Time :=
  let m := (n % dayMicros).toNat
  ⟨m / 3600000000, m / 60000000 % 60, m / 1000000 % 60, m % 1000000 * 1000, by
    have : m < 86400000000 := by
      have := Int.emod_lt_of_pos n (b := (dayMicros : Int)) (by decide)
      have := Int.emod_nonneg n (b := (dayMicros : Int)) (by decide)
      simp only [dayMicros, m] at *
      omega
    omega⟩

/-- The nanoseconds from midnight. -/
def toNanos (t : Time) : Nat :=
  ((t.hour * 60 + t.minute) * 60 + t.second) * 1000000000 + t.nano

/-- A fraction of a second in nanoseconds, in as few digits as are exact. -/
def fractionText (nano : Nat) : List Char :=
  if nano = 0 then []
  else if nano % 1000000 = 0 then '.' :: Text.decimalPadded 3 (nano / 1000000)
  else if nano % 1000 = 0 then '.' :: Text.decimalPadded 6 (nano / 1000)
  else '.' :: Text.decimalPadded 9 nano

/-- The characters of a time. -/
def chars (t : Time) : List Char :=
  Text.decimalPadded 2 t.hour ++ ':' :: Text.decimalPadded 2 t.minute ++
    ':' :: Text.decimalPadded 2 t.second ++ fractionText t.nano

/-- The text of a time. -/
def text (t : Time) : String := String.ofList t.chars

example : (of? 23 59 60 500000000).map text = some "23:59:60.500" := by decide +kernel
example : (ofMicros (-1)).text = "23:59:59.999999" := by decide +kernel

end Time

/-- An offset from Coordinated Universal Time, in seconds to the east. -/
structure Offset where
  east : Int
  valid : -86400 < east ∧ east < 86400
  deriving DecidableEq

namespace Offset

/-- The offset of so many seconds to the east, if it is less than a day. -/
def ofEast? (east : Int) : Option Offset :=
  if h : -86400 < east ∧ east < 86400 then some ⟨east, h⟩ else none

/-- The characters of an offset: hours and minutes, and seconds if there are any. -/
def chars (o : Offset) : List Char :=
  let n := o.east.natAbs
  (if o.east < 0 then '-' else '+') :: Text.decimalPadded 2 (n / 3600) ++
    ':' :: Text.decimalPadded 2 (n / 60 % 60) ++
    (if n % 60 = 0 then [] else ':' :: Text.decimalPadded 2 (n % 60))

end Offset

/-- A date and a time. -/
structure Moment where
  date : Date
  time : Time
  deriving DecidableEq

namespace Moment

/-- The moment so many microseconds after 2000-01-01 00:00:00, if it is in range. -/
def ofMicros? (n : Int) : Option Moment :=
  (Date.ofDays? (n.fdiv Time.dayMicros)).map fun d => ⟨d, Time.ofMicros n⟩

/-- The microseconds from 2000-01-01 00:00:00, cut toward it. -/
def toMicros (m : Moment) : Int :=
  (m.date.toDays * (1000 * Time.dayMicros) + m.time.toNanos).tdiv 1000

/-- A moment so many minutes earlier, if it is in range. -/
def minutesEarlier? (m : Moment) (minutes : Int) : Option Moment :=
  let total := (m.time.hour * 60 + m.time.minute : Nat) - minutes
  let inDay := (total % 1440).toNat
  (Date.ofDays? (m.date.toDays + total.fdiv 1440)).map fun d =>
    ⟨d, ⟨inDay / 60, inDay % 60, m.time.second, m.time.nano, by
      have := m.time.valid
      have := Int.emod_lt_of_pos total (b := 1440) (by decide)
      have := Int.emod_nonneg total (b := 1440) (by decide)
      simp only [inDay]
      omega⟩⟩

/-- The characters of a moment with one between date and time. -/
def charsWith (separator : Char) (m : Moment) : List Char :=
  m.date.chars ++ separator :: m.time.chars

/-- The text of a moment. -/
def text (m : Moment) : String := String.ofList (m.charsWith ' ')

/-- The text of a moment as an instant. -/
def instantText (m : Moment) : String :=
  String.ofList (m.charsWith 'T' ++ "+00:00".toList)

example : (ofMicros? (-1)).map text = some "1999-12-31 23:59:59.999999" := by decide +kernel
example : (ofMicros? 500000).map instantText = some "2000-01-01T00:00:00.500+00:00" := by
  decide +kernel

end Moment

end PgRole.Calendar
