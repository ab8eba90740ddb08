import PgRole.Calendar.Pattern
import PgRole.Proofs.Calendar.Date
import PgRole.Proofs.Text.Digits
import PgRole.Proofs.Text.Span

/-!
# Dates and times read back

The text of a date, of a time or of a moment reads back as what it shows (`date?_chars`,
`time?_chars`, `moment?_chars`), whatever the year and however many digits the fraction has. The
text of an instant reads back in the strict form (`instant?_chars`), which has four digits for the
year.

Each field is written in its full width, so it is taken whole whatever follows; only the digits of
a signed year and of a fraction end where something else begins.
-/

namespace PgRole.Calendar

open Text

variable {ds rest : List Char}

/-! ## Numbers -/

/-- The digits within a width are a run that ends where no further digit would be read. -/
theorem takeWhile_take_run {width : Nat} (hdigits : ∀ c ∈ ds, isDigit c)
    (hwidth : ds.length ≤ width)
    (hrest : ds.length < width → ∀ c ∈ rest.head?, isDigit c = false) :
    ((ds ++ rest).take width).takeWhile isDigit = ds := by
  rw [List.take_append, List.take_of_length_le hwidth]
  apply takeWhile_run hdigits
  intro c hc
  cases hroom : width - ds.length with
  | zero =>
    rw [hroom, List.take_zero] at hc
    cases hc
  | succ n =>
    rw [hroom] at hc
    refine hrest (by omega) c ?_
    cases rest with
    | nil => cases hc
    | cons c' rest => exact hc

/-- A run of digits is read as one number, if it ends where no further digit would be read. -/
theorem readNumber?_run {least most : Nat} (hdigits : ∀ c ∈ ds, isDigit c)
    (hleast : least ≤ ds.length) (hmost : ds.length ≤ most)
    (hrest : ds.length < most → ∀ c ∈ rest.head?, isDigit c = false) :
    readNumber? least most (ds ++ rest) = some (valueOf ds, rest) := by
  unfold readNumber?
  rw [takeWhile_take_run hdigits hmost hrest, if_pos hleast, List.drop_left]

/-- A number in its full width is read whatever follows. -/
theorem readNumber?_padded {least k n : Nat} (hleast : least ≤ k + 1) (hn : n < 10 ^ (k + 1)) :
    readNumber? least (k + 1) (decimalPadded (k + 1) n ++ rest) = some (n, rest) := by
  have hlen := length_decimalPadded hn
  rw [readNumber?_run isDigit_of_mem_decimalPadded (by omega) (by omega) (by omega),
    valueOf_decimalPadded]

theorem readLongNumber?_padded {k n : Nat} (hrest : ∀ c ∈ rest.head?, isDigit c = false) :
    readLongNumber? (decimalPadded (k + 1) n ++ rest) = some (n, rest) := by
  have hlen := le_length_decimalPadded (k + 1) n
  rw [readLongNumber?, readNumber?_run isDigit_of_mem_decimalPadded (by omega)
    (by rw [List.length_append]; omega) (fun _ => hrest), valueOf_decimalPadded]

theorem exists_cons_decimalPadded (width n : Nat) :
    ∃ c cs, decimalPadded width n = c :: cs ∧ isDigit c := by
  obtain ⟨c, cs, h⟩ := List.exists_cons_of_ne_nil (decimalPadded_ne_nil width n)
  exact ⟨c, cs, h, isDigit_of_mem_decimalPadded c (h ▸ List.mem_cons_self)⟩

theorem trimStart_padded (width n : Nat) :
    trimStart (decimalPadded width n ++ rest) = decimalPadded width n ++ rest := by
  obtain ⟨c, cs, h, hc⟩ := exists_cons_decimalPadded width n
  rw [h]
  exact trimStart_eq_self (by rintro _ ⟨⟩; exact isBlank_of_isDigit hc)

theorem two?_padded {n : Nat} (hn : n < 100) :
    Item.two? (decimalPadded 2 n ++ rest) = some (n, rest) := by
  rw [Item.two?, trimStart_padded, readNumber?_padded (by omega) (by omega)]

theorem readChar?_cons (c : Char) : readChar? c (c :: rest) = some rest := if_pos rfl

/-! ## Years -/

theorem trimStart_yearText (y : Int) :
    trimStart (Date.yearText y ++ rest) = Date.yearText y ++ rest := by
  unfold Date.yearText
  split
  · exact trimStart_padded 4 _
  · apply trimStart_eq_self
    rintro _ ⟨⟩
    split <;> decide

/-- A year that begins with a digit has no sign and at most four digits. -/
theorem readYear?_of_isDigit {c : Char} {cs : List Char} (hc : isDigit c) :
    readYear? (c :: cs) = (readNumber? 1 4 (c :: cs)).map fun (n, r) => ((n : Int), r) := by
  unfold readYear?
  split
  · rename_i h
    cases h
    exact absurd hc (by decide)
  · rename_i h
    cases h
    exact absurd hc (by decide)
  · rfl

/-- A year is read back in front of a hyphen, which ends the digits of a year with a sign. -/
theorem readYear?_yearText (y : Int) :
    readYear? (Date.yearText y ++ '-' :: rest) = some (y, '-' :: rest) := by
  have hhyphen : ∀ c ∈ ('-' :: rest).head?, isDigit c = false := by
    rintro _ ⟨⟩
    decide
  unfold Date.yearText
  split
  · have hread : readNumber? 1 4 (decimalPadded 4 y.natAbs ++ '-' :: rest) =
        some (y.natAbs, '-' :: rest) := readNumber?_padded (by omega) (by omega)
    obtain ⟨c, cs, h, hc⟩ := exists_cons_decimalPadded 4 y.natAbs
    rw [h] at hread ⊢
    rw [List.cons_append] at hread ⊢
    rw [readYear?_of_isDigit hc, hread, Option.map_some]
    exact congrArg (fun n => some (n, '-' :: rest)) (by omega)
  · by_cases hneg : y < 0
    · rw [if_pos hneg, List.cons_append, readYear?, readLongNumber?_padded hhyphen, Option.map_some]
      exact congrArg (fun n => some (n, '-' :: rest)) (by omega)
    · rw [if_neg hneg, List.cons_append, readYear?, readLongNumber?_padded hhyphen, Option.map_some]
      exact congrArg (fun n => some (n, '-' :: rest)) (by omega)

/-! ## Fractions -/

theorem readFraction?_run (hdigits : ∀ c ∈ ds, isDigit c) (hne : ds ≠ []) (hlen : ds.length ≤ 9)
    (hrest : ∀ c ∈ rest.head?, isDigit c = false) :
    readFraction? (ds ++ rest) = some (valueOf ds * 10 ^ (9 - ds.length), rest) := by
  unfold readFraction?
  rw [takeWhile_take_run hdigits hlen (fun _ => hrest), dropWhile_run hdigits hrest,
    if_neg (by simpa using hne)]

/-- A fraction is left out if there is none, and otherwise reads back after the point. -/
theorem fractionText_cases {nano : Nat} (hnano : nano < 1000000000)
    (hrest : ∀ c ∈ rest.head?, isDigit c = false) :
    (nano = 0 ∧ Time.fractionText nano = []) ∨
      ∃ ds, Time.fractionText nano = '.' :: ds ∧
        readFraction? (ds ++ rest) = some (nano, rest) := by
  -- the digits of `n` in a width of three, six or nine are `n` in units of that place
  have hread {k n : Nat} (hk : k < 9) (hn : n < 10 ^ (k + 1)) (hunits : n * 10 ^ (8 - k) = nano) :
      readFraction? (decimalPadded (k + 1) n ++ rest) = some (nano, rest) := by
    have hlen := length_decimalPadded hn
    rw [readFraction?_run isDigit_of_mem_decimalPadded (decimalPadded_ne_nil _ _) (by omega) hrest,
      hlen, valueOf_decimalPadded, ← hunits, Nat.add_sub_add_right 8 1 k]
  unfold Time.fractionText
  split
  · exact .inl ⟨‹_›, rfl⟩
  · right
    split
    · exact ⟨_, rfl, hread (k := 2) (by omega) (by omega) (by omega)⟩
    · split
      · exact ⟨_, rfl, hread (k := 5) (by omega) (by omega) (by omega)⟩
      · exact ⟨_, rfl, hread (k := 8) (by omega) (by omega) (by omega)⟩

theorem Time.of?_self (t : Time) : Time.of? t.hour t.minute t.second t.nano = some t :=
  dif_pos t.valid

/-! ## White space -/

theorem isBlank_of_mem_decimalPadded (width n : Nat) :
    ∀ c ∈ decimalPadded width n, isBlank c = false :=
  fun c hc => isBlank_of_isDigit (isDigit_of_mem_decimalPadded c hc)

/-- A date is written without blanks. -/
theorem Date.isBlank_of_mem_chars (d : Date) : ∀ c ∈ d.chars, isBlank c = false := by
  have hpadded (width n : Nat) := isBlank_of_mem_decimalPadded width n
  have hyear : ∀ c ∈ Date.yearText d.year, isBlank c = false := by
    unfold Date.yearText
    split
    · exact hpadded 4 _
    · refine List.forall_mem_cons.2 ⟨?_, hpadded 4 _⟩
      split <;> decide
  unfold Date.chars
  rw [List.forall_mem_append, List.forall_mem_append, List.forall_mem_cons, List.forall_mem_cons]
  exact ⟨⟨hyear, by decide, hpadded 2 _⟩, by decide, hpadded 2 _⟩

/-- A time of day is written without blanks. -/
theorem Time.isBlank_of_mem_chars (t : Time) : ∀ c ∈ t.chars, isBlank c = false := by
  have hpadded (width n : Nat) := isBlank_of_mem_decimalPadded width n
  have hfraction : ∀ c ∈ Time.fractionText t.nano, isBlank c = false := by
    have hpoint (width n : Nat) : ∀ c ∈ '.' :: decimalPadded width n, isBlank c = false :=
      List.forall_mem_cons.2 ⟨by decide, hpadded width n⟩
    unfold Time.fractionText
    split
    · simp
    · split
      · exact hpoint 3 _
      · split
        · exact hpoint 6 _
        · exact hpoint 9 _
  unfold Time.chars
  rw [List.forall_mem_append, List.forall_mem_append, List.forall_mem_append,
    List.forall_mem_cons, List.forall_mem_cons]
  exact ⟨⟨⟨hpadded 2 _, by decide, hpadded 2 _⟩, by decide, hpadded 2 _⟩, hfraction⟩

/-! ## Patterns -/

namespace Pattern

theorem readItems?_cons {i : Item} {is : List Item} {f f' : Reading} {cs : List Char}
    (h : i.read? f cs = some (f', rest)) :
    readItems? (i :: is) f cs = readItems? is f' rest := by
  rw [readItems?, h, Option.bind_some]

theorem readItems?_append (p q : List Item) (f : Reading) (cs : List Char) :
    readItems? (p ++ q) f cs = (readItems? p f cs).bind fun (f, r) => readItems? q f r := by
  induction p generalizing f cs with
  | nil => rfl
  | cons i p ih =>
    rw [List.cons_append, readItems?, readItems?, Option.bind_assoc]
    exact congrArg _ (funext fun (f, r) => ih f r)

/-- A date that was written is read back, whatever stands behind it. -/
theorem readItems?_date (f : Reading) (d : Date) :
    readItems? date f (d.chars ++ rest) =
      some ({ f with year := d.year, month := d.month, day := d.day }, rest) := by
  obtain ⟨hmonth, hday⟩ := d.parts_lt
  simp only [Date.chars, List.append_assoc, List.cons_append, date]
  rw [readItems?_cons (by rw [Item.read?, trimStart_yearText, readYear?_yearText]; rfl),
    readItems?_cons (by rw [Item.read?, readChar?_cons]; rfl),
    readItems?_cons (by rw [Item.read?, two?_padded hmonth]; rfl),
    readItems?_cons (by rw [Item.read?, readChar?_cons]; rfl),
    readItems?_cons (by rw [Item.read?, two?_padded hday]; rfl)]
  rfl

/-- The fraction of a time at the end of a text. -/
theorem read?_fraction {f : Reading} (hf : f.nano = 0) {nano : Nat} (hnano : nano < 1000000000) :
    Item.fraction.read? f (Time.fractionText nano) = some ({ f with nano := nano }, []) := by
  have hend : ∀ c ∈ ([] : List Char).head?, isDigit c = false := by simp
  rcases fractionText_cases hnano hend with ⟨rfl, h⟩ | ⟨ds, h, hread⟩
  · rw [h, ← hf]
    rfl
  · rw [List.append_nil] at hread
    rw [h, Item.read?, hread]
    rfl

/-- A time of day that was written is read back at the end of a text. -/
theorem readItems?_time {f : Reading} (hf : f.nano = 0) (t : Time) :
    readItems? time f t.chars =
      some ({ f with hour := t.hour, minute := t.minute, second := t.second, nano := t.nano },
        []) := by
  obtain ⟨hhour, hminute, hsecond, hnano⟩ := t.valid
  simp only [Time.chars, List.append_assoc, List.cons_append, time]
  rw [readItems?_cons (by rw [Item.read?, two?_padded (by omega)]; rfl),
    readItems?_cons (by rw [Item.read?, readChar?_cons]; rfl),
    readItems?_cons (by rw [Item.read?, two?_padded (by omega)]; rfl),
    readItems?_cons (by rw [Item.read?, readChar?_cons]; rfl),
    readItems?_cons (by rw [Item.read?, two?_padded (by omega)]; rfl),
    readItems?_cons (read?_fraction
      (f := { f with hour := t.hour, minute := t.minute, second := t.second }) hf hnano)]
  rfl

end Pattern

/-! ## Texts -/

/-- The text of a date reads back. -/
theorem date?_chars (d : Date) : date? d.chars = some d := by
  have hread : Pattern.readItems? Pattern.date .start (d.chars ++ []) = _ :=
    Pattern.readItems?_date .start d
  rw [List.append_nil] at hread
  rw [date?, Pattern.read?, hread]
  exact d.of?_self

/-- The text of a time of day reads back. -/
theorem time?_chars (t : Time) : time? t.chars = some t := by
  rw [time?, Pattern.read?, Pattern.readItems?_time rfl]
  exact congrArg (Option.or · _) t.of?_self

/-- The text of a moment reads back. -/
theorem moment?_chars (m : Moment) : moment? (m.charsWith ' ') = some m := by
  have hread : Pattern.read? (Pattern.date ++ .blank :: Pattern.time) (m.charsWith ' ') =
      some ⟨m.date.year, m.date.month, m.date.day, m.time.hour, m.time.minute, m.time.second,
        m.time.nano, 0⟩ := by
    have hblank : trimStart (' ' :: m.time.chars) = m.time.chars := by
      rw [trimStart, List.dropWhile_cons_of_pos (by decide), ← trimStart]
      exact trimStart_eq_self fun c hc => m.time.isBlank_of_mem_chars c (List.mem_of_mem_head? hc)
    rw [Pattern.read?, Moment.charsWith, Pattern.readItems?_append, Pattern.readItems?_date,
      Option.bind_some]
    dsimp only
    rw [Pattern.readItems?_cons (by rw [Item.read?, hblank]), Pattern.readItems?_time rfl]
    rfl
  have hmoment : (Pattern.read? (Pattern.date ++ .blank :: Pattern.time) (m.charsWith ' ')).bind
      Reading.moment? = some m := by
    rw [hread, Option.bind_some, Reading.moment?, Reading.date?, Reading.time?, m.date.of?_self,
      m.time.of?_self]
    rfl
  rw [moment?, plainMoment?, Pattern.moments, List.findSome?_cons, hmoment]
  rfl

/-! ## Instants -/

/-- The fields of the text of an instant, in the strict form. -/
theorem readStrict?_chars {m : Moment} (hyear : 0 ≤ m.date.year ∧ m.date.year ≤ 9999) :
    readStrict? (m.charsWith 'T' ++ "+00:00".toList) =
      some ⟨m.date.year, m.date.month, m.date.day, m.time.hour, m.time.minute, m.time.second,
        m.time.nano, 0⟩ := by
  obtain ⟨hmonth, hday⟩ := m.date.parts_lt
  obtain ⟨hhour, hminute, hsecond, hnano⟩ := m.time.valid
  have htwo {n : Nat} (rest : List Char) (hn : n < 100) :
      readNumber? 2 2 (decimalPadded 2 n ++ rest) = some (n, rest) :=
    readNumber?_padded (by omega) hn
  have hfour (rest : List Char) : readNumber? 4 4 (decimalPadded 4 m.date.year.natAbs ++ rest) =
      some (m.date.year.natAbs, rest) := readNumber?_padded (by omega) (by omega)
  have hcast : (m.date.year.natAbs : Int) = m.date.year := by omega
  unfold readStrict? Moment.charsWith Date.chars Time.chars Date.yearText
  simp only [if_pos hyear, List.append_assoc, List.cons_append]
  -- the fields in their order, each of a known width
  rw [hfour, Option.bind_eq_bind, Option.bind_some, readChar?_cons, Option.bind_eq_bind,
    Option.bind_some,
    htwo _ hmonth, Option.bind_some, readChar?_cons, Option.bind_some, htwo _ hday,
    Option.bind_some, readChar?_cons, Option.some_or, Option.bind_some, htwo _ (by omega),
    Option.bind_some, readChar?_cons, Option.bind_some, htwo _ (by omega), Option.bind_some,
    readChar?_cons, Option.bind_some, htwo _ (by omega), Option.bind_some]
  have htext : "+00:00".toList = ['+', '0', '0', ':', '0', '0'] := rfl
  have hend : ∀ c ∈ ['+', '0', '0', ':', '0', '0'].head?, isDigit c = false := by
    rintro _ ⟨⟩
    decide
  rw [htext]
  rcases fractionText_cases hnano hend with
    ⟨hzero, h⟩ | ⟨ds, h, hread⟩
  · rw [h, hzero, List.nil_append, hcast]
    rfl
  · rw [h, List.cons_append, hcast]
    change (readFraction? (ds ++ ['+', '0', '0', ':', '0', '0'])).bind _ = _
    rw [hread]
    rfl

/-- No minutes earlier is the same moment. -/
theorem Moment.minutesEarlier?_zero {m : Moment}
    (hdays : Date.ofDays? m.date.toDays = some m.date) : m.minutesEarlier? 0 = some m := by
  obtain ⟨hhour, hminute, -, -⟩ := m.time.valid
  have htotal : ((m.time.hour * 60 + m.time.minute : Nat) - 0 : Int).fdiv 1440 = 0 := by
    rw [Int.fdiv_eq_ediv_of_nonneg _ (by decide)]
    omega
  have hinDay : (((m.time.hour * 60 + m.time.minute : Nat) - 0 : Int) % 1440).toNat =
      m.time.hour * 60 + m.time.minute := by omega
  have hhours : (m.time.hour * 60 + m.time.minute) / 60 = m.time.hour := by omega
  have hminutes : (m.time.hour * 60 + m.time.minute) % 60 = m.time.minute := by omega
  simp only [minutesEarlier?, htotal, hinDay, hhours, hminutes, Int.add_zero, hdays,
    Option.map_some]

/-- The text of an instant reads back, for the years that the strict form has. -/
theorem instant?_chars {m : Moment} (hyear : 0 ≤ m.date.year ∧ m.date.year ≤ 9999)
    (hdays : Date.ofDays? m.date.toDays = some m.date) :
    instant? (m.charsWith 'T' ++ "+00:00".toList) = some m := by
  have hread : (readStrict? (m.charsWith 'T' ++ "+00:00".toList)).bind Reading.instant? =
      some m := by
    rw [readStrict?_chars hyear, Option.bind_some, Reading.instant?, Reading.moment?, Reading.date?,
      Reading.time?, m.date.of?_self, m.time.of?_self]
    exact Moment.minutesEarlier?_zero hdays
  rw [instant?, hread]
  rfl

/-! ## Ends of texts -/

theorem Date.chars_ne_nil (d : Date) : d.chars ≠ [] :=
  List.append_ne_nil_of_right_ne_nil _ (List.cons_ne_nil _ _)

theorem Time.chars_ne_nil (t : Time) : t.chars ≠ [] := by
  simp [Time.chars]

/-- The text of a moment has no white space at its ends. -/
theorem Moment.trim_charsWith (separator : Char) (m : Moment) (back : List Char)
    (hback : ∀ c ∈ back, isBlank c = false) :
    trimEnd (trimStart (m.charsWith separator ++ back)) = m.charsWith separator ++ back := by
  have hends : trimEnd (trimStart (m.date.chars ++ [separator] ++ (m.time.chars ++ back))) =
      m.date.chars ++ [separator] ++ (m.time.chars ++ back) :=
    trimEnd_trimStart m.date.chars_ne_nil
      (List.append_ne_nil_of_left_ne_nil m.time.chars_ne_nil back) m.date.isBlank_of_mem_chars
      (List.forall_mem_append.2 ⟨m.time.isBlank_of_mem_chars, hback⟩)
  simpa [Moment.charsWith] using hends

end PgRole.Calendar
