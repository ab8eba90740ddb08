import PgRole.Calendar.Time
import PgRole.Power
import PgRole.Text.Blank

/-!
# Dates and times from text

A pattern is a list of items, each of which takes characters off the front of a text: a number
field, a character, any amount of white space, a fraction, an offset. A number field may have
white space in front and fewer digits than its width; a year with a sign may have more. A text
matches a pattern if the items take all of it and the fields form a date or a time.

`instant?` and `moment?` are the readings of the two kinds of moments: the first pattern that
matches counts, and a text with an offset is read as well in the strict form with `T`, seconds and
an offset of hours and minutes.
-/

namespace PgRole.Calendar

/-- The fields of a text. -/
structure Reading where
  year : Int
  month : Nat
  day : Nat
  hour : Nat
  minute : Nat
  second : Nat
  nano : Nat
  east : Int

namespace Reading

/-- No fields read. -/
def start : Reading := ⟨0, 0, 0, 0, 0, 0, 0, 0⟩

/-- The date of the fields. -/
def date? (r : Reading) : Option Date := Date.of? r.year r.month r.day

/-- The time of the fields. -/
def time? (r : Reading) : Option Time := Time.of? r.hour r.minute r.second r.nano

/-- The date and the time of the fields. -/
def moment? (r : Reading) : Option Moment := do
  let d ← r.date?
  let t ← r.time?
  pure ⟨d, t⟩

/-- The instant of the fields, their offset taken off. -/
def instant? (r : Reading) : Option Moment := do
  let m ← r.moment?
  let o ← Offset.ofEast? r.east
  m.minutesEarlier? (o.east.tdiv 60)

end Reading

/-- A number of at least so many digits and at most so many. -/
def readNumber? (least most : Nat) (cs : List Char) : Option (Nat × List Char) :=
  let ds := (cs.take most).takeWhile Text.isDigit
  if least ≤ ds.length then some (Text.valueOf ds, cs.drop ds.length) else none

/-- A number of any length, at least one digit. -/
def readLongNumber? (cs : List Char) : Option (Nat × List Char) := readNumber? 1 cs.length cs

/-- A year: up to four digits, or a sign and any digits. -/
def readYear? : List Char → Option (Int × List Char)
  | '-' :: r => (readLongNumber? r).map fun (n, r) => (-(n : Int), r)
  | '+' :: r => (readLongNumber? r).map fun (n, r) => ((n : Int), r)
  | cs => (readNumber? 1 4 cs).map fun (n, r) => ((n : Int), r)

/-- The nanoseconds of up to nine digits of a fraction; further digits are passed over. -/
def readFraction? (cs : List Char) : Option (Nat × List Char) :=
  let ds := (cs.take 9).takeWhile Text.isDigit
  if ds.isEmpty then none
  else some (Text.valueOf ds * 10 ^ (9 - ds.length), cs.dropWhile Text.isDigit)

/-- A character that has to be there. -/
def readChar? (c : Char) : List Char → Option (List Char)
  | c' :: r => if c' = c then some r else none
  | [] => none

/-- The sign of an offset; true for west. -/
def readSign? : List Char → Option (Bool × List Char)
  | '+' :: r => some (false, r)
  | '-' :: r => some (true, r)
  | '\u2212' :: r => some (true, r)
  | _ => none

/-- The seconds of hours and minutes on a side. -/
def eastSeconds (west : Bool) (hours minutes : Nat) : Int :=
  let n : Int := (hours * 60 + minutes : Nat) * 60
  if west then -n else n

/-- An offset of hours, anything of colons and white space, and minutes that may be missing at the
end of the text. -/
def readLooseOffset? : List Char → Option (Int × List Char)
  | 'Z' :: r => some (0, r)
  | 'z' :: r => some (0, r)
  | cs => do
    let (west, r) ← readSign? cs
    let (hours, r) ← readNumber? 2 2 r
    match r.dropWhile fun c => c = ':' || Text.isBlank c with
    | [] => pure (eastSeconds west hours 0, [])
    | r =>
      let (minutes, r) ← readNumber? 2 2 r
      if minutes < 60 then pure (eastSeconds west hours minutes, r) else none

/-- An offset of hours and minutes with a colon between them. -/
def readStrictOffset? : List Char → Option (Int × List Char)
  | 'Z' :: r => some (0, r)
  | 'z' :: r => some (0, r)
  | cs => do
    let (west, r) ← readSign? cs
    let (hours, r) ← readNumber? 2 2 r
    let r ← readChar? ':' r
    let (minutes, r) ← readNumber? 2 2 r
    if hours < 24 ∧ minutes < 60 then pure (eastSeconds west hours minutes, r) else none

/-- An item of a pattern. -/
inductive Item where
  | char (c : Char)
  | blank
  | year
  | month
  | day
  | hour
  | minute
  | second
  | fraction
  | offset

namespace Item

/-- A number of up to two digits after white space. -/
def two? (cs : List Char) : Option (Nat × List Char) := readNumber? 1 2 (Text.trimStart cs)

/-- Takes an item off the front of a text. -/
def read? (f : Reading) (cs : List Char) : Item → Option (Reading × List Char)
  | char c => (readChar? c cs).map fun r => (f, r)
  | blank => some (f, Text.trimStart cs)
  | year => (readYear? (Text.trimStart cs)).map fun (n, r) => ({ f with year := n }, r)
  | month => (two? cs).map fun (n, r) => ({ f with month := n }, r)
  | day => (two? cs).map fun (n, r) => ({ f with day := n }, r)
  | hour => (two? cs).map fun (n, r) => ({ f with hour := n }, r)
  | minute => (two? cs).map fun (n, r) => ({ f with minute := n }, r)
  | second => (two? cs).map fun (n, r) => ({ f with second := n }, r)
  | fraction =>
    match cs with
    | '.' :: r => (readFraction? r).map fun (n, r) => ({ f with nano := n }, r)
    | cs => some (f, cs)
  | offset => (readLooseOffset? (Text.trimStart cs)).map fun (n, r) => ({ f with east := n }, r)

end Item

namespace Pattern

/-- Takes items off the front of a text. -/
def readItems? : List Item → Reading → List Char → Option (Reading × List Char)
  | [], f, cs => some (f, cs)
  | i :: is, f, cs => (i.read? f cs).bind fun (f, r) => readItems? is f r

/-- The fields of a text that a pattern takes whole. -/
def read? (p : List Item) (cs : List Char) : Option Reading :=
  (readItems? p .start cs).bind fun (f, r) => if r.isEmpty then some f else none

/-- Year, month and day with hyphens. -/
def date : List Item := [.year, .char '-', .month, .char '-', .day]

/-- Hour, minute and second with colons, and a fraction. -/
def time : List Item := [.hour, .char ':', .minute, .char ':', .second, .fraction]

/-- Hour and minute with a colon. -/
def shortTime : List Item := [.hour, .char ':', .minute]

/-- The patterns of a date with a time. -/
def moments : List (List Item) :=
  [date ++ .blank :: time, date ++ .char 'T' :: time, date ++ .blank :: shortTime,
    date ++ .char 'T' :: shortTime]

/-- A date, white space, a time and an offset. -/
def zoned : List Item := date ++ .blank :: time ++ [.offset]

end Pattern

/-- The date of a text. -/
def date? (cs : List Char) : Option Date := (Pattern.read? Pattern.date cs).bind Reading.date?

/-- The time of a text, with or without seconds. -/
def time? (cs : List Char) : Option Time :=
  ((Pattern.read? Pattern.time cs).bind Reading.time?).or
    ((Pattern.read? Pattern.shortTime cs).bind Reading.time?)

/-- The fields of a text in the strict form: all digits, `T` or a space, seconds, an offset. -/
def readStrict? (cs : List Char) : Option Reading := do
  let (year, r) ← readNumber? 4 4 cs
  let r ← readChar? '-' r
  let (month, r) ← readNumber? 2 2 r
  let r ← readChar? '-' r
  let (day, r) ← readNumber? 2 2 r
  let r ← (readChar? 'T' r).or ((readChar? 't' r).or (readChar? ' ' r))
  let (hour, r) ← readNumber? 2 2 r
  let r ← readChar? ':' r
  let (minute, r) ← readNumber? 2 2 r
  let r ← readChar? ':' r
  let (second, r) ← readNumber? 2 2 r
  let (nano, r) ←
    match r with
    | '.' :: r => readFraction? r
    | r => some (0, r)
  let (east, r) ← readStrictOffset? r
  if r.isEmpty then pure ⟨year, month, day, hour, minute, second, nano, east⟩ else none

/-- The date and time of a text without an offset; a date alone is its midnight. -/
def plainMoment? (cs : List Char) : Option Moment :=
  (Pattern.moments.findSome? fun p => (Pattern.read? p cs).bind Reading.moment?).or
    ((date? cs).map fun d => ⟨d, .midnight⟩)

/-- The date and time that a text shows; an offset is passed over. -/
def moment? (cs : List Char) : Option Moment :=
  (plainMoment? cs).or
    ((readStrict? cs).bind fun f => f.instant?.bind fun _ => f.moment?)

/-- The instant that a text shows; a text without an offset is in Coordinated Universal Time. -/
def instant? (cs : List Char) : Option Moment :=
  (((readStrict? cs).bind Reading.instant?).or
    ((Pattern.read? Pattern.zoned cs).bind Reading.instant?)).or (plainMoment? cs)

example : (moment? "2024-01-01T12:30:45.5+09:00".toList).map Moment.text =
    some "2024-01-01 12:30:45.500" := by decide +kernel
example : (instant? "2024-01-01T12:30:45.5+09:00".toList).map Moment.text =
    some "2024-01-01 03:30:45.500" := by decide +kernel
example : (instant? "2024-1-1 1:2:3 +09".toList).map Moment.text =
    some "2023-12-31 16:02:03" := by decide +kernel
example : date? "2024-13-01".toList = none := by decide +kernel

end PgRole.Calendar
