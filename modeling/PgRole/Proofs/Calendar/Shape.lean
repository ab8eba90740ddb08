import Mathlib.Data.List.DropRight
import PgRole.Proofs.Calendar.Item

/-!
# The shapes of texts of moments

A text with a date has one of four shapes: the date alone, or with hours and minutes, or with
seconds too, or with an offset behind them. Every pattern, and the strict form, reads texts of one
shape (`Reads`), and a text has one shape and one reading in it (`Reads.unique`): the fields are
read from left to right, and what follows the date, and then the minutes, and then the seconds tells
the shapes apart.
-/

namespace PgRole.Calendar

open Text Pattern

/-! ## Shapes -/

/-- What the text of a moment has behind its date. -/
inductive Shape where
  | date
  | minutes
  | seconds
  | offset
  deriving DecidableEq

/-- What may stand between a date and a time. -/
def separators : List Item := [.blank, .char 'T', .char 't', .char ' ']

/-- What a shape has behind the minutes, if it has them. -/
def Shape.behindMinutes? : Shape → Option (List Item)
  | date => none
  | minutes => some []
  | seconds => some [.char ':', .second, .fraction]
  | offset => some [.char ':', .second, .fraction, .offset]

/-- A text of a shape, with its fields. -/
inductive Reads : Shape → List Char → Reading → Prop
  | date {cs : List Char} {f : Reading} (h : read? Pattern.date cs = some f) : Reads .date cs f
  | time {k : Shape} {behind : List Item} {s : Item} {cs : List Char} {f : Reading}
    (hk : k.behindMinutes? = some behind) (hs : s ∈ separators)
    (h : read? (Pattern.date ++ s :: (shortTime ++ behind)) cs = some f) : Reads k cs f

variable {cs r : List Char} {f f' g : Reading}

/-- A pattern reads a text if its items take all of it. -/
theorem read?_eq_some_iff {p : List Item} :
    read? p cs = some f ↔ readItems? p .start cs = some (f, []) := by
  rw [read?, Option.bind_eq_some_iff]
  constructor
  · rintro ⟨⟨g, r⟩, h, hr⟩
    dsimp only at hr
    split at hr
    · rename_i hempty
      cases hr
      rw [h, List.isEmpty_iff.1 hempty]
    · cases hr
  · intro h
    exact ⟨_, h, rfl⟩

theorem readItems?_append_eq_some {p q : List Item} {x : Reading × List Char}
    (h : readItems? (p ++ q) f cs = some x) :
    ∃ g r, readItems? p f cs = some (g, r) ∧ readItems? q g r = some x := by
  rw [readItems?_append] at h
  obtain ⟨⟨g, r⟩, hp, hq⟩ := Option.bind_eq_some_iff.1 h
  exact ⟨g, r, hp, hq⟩

/-! ## Telling shapes apart -/

theorem exists_digit_of_shortTime {x : Reading × List Char}
    (h : readItems? shortTime f cs = some x) : ∃ c rest, trimStart cs = c :: rest ∧ isDigit c := by
  obtain ⟨⟨_, _⟩, hhour, -⟩ := Option.bind_eq_some_iff.1 h
  obtain ⟨_, htwo, -⟩ := Option.map_eq_some_iff.1 hhour
  exact exists_cons_of_readNumber? (by decide) htwo

/-- White space in front of a time is passed over. -/
theorem readItems?_shortTime_congr (h : trimStart cs = trimStart r) :
    readItems? shortTime f cs = readItems? shortTime f r := by
  have htwo : Item.two? cs = Item.two? r := by rw [Item.two?, Item.two?, h]
  simp only [shortTime, readItems?, Item.read?, htwo]

/-- A separator is a letter, or white space that is passed over. -/
theorem exists_separated {s : Item} (hs : s ∈ separators) {x : Reading × List Char}
    (h : readItems? (s :: shortTime) f cs = some x) :
    ∃ r, readItems? shortTime f r = some x ∧
      (trimStart cs = trimStart r ∨ ∃ c, (c = 'T' ∨ c = 't') ∧ cs = c :: r) := by
  obtain ⟨⟨g, r⟩, hread, htime⟩ := Option.bind_eq_some_iff.1 h
  have hchar {c : Char} (hread : (Item.char c).read? f cs = some (g, r)) : cs = c :: r ∧ g = f := by
    obtain ⟨_, hread, heq⟩ := Option.map_eq_some_iff.1 hread
    cases heq
    exact ⟨eq_cons_of_readChar? hread, rfl⟩
  simp only [separators, List.mem_cons, List.not_mem_nil, or_false] at hs
  rcases hs with rfl | rfl | rfl | rfl
  · cases hread
    exact ⟨trimStart cs, htime, .inl (List.dropWhile_idempotent isBlank cs).symm⟩
  · obtain ⟨hcs, rfl⟩ := hchar hread
    exact ⟨r, htime, .inr ⟨'T', .inl rfl, hcs⟩⟩
  · obtain ⟨hcs, rfl⟩ := hchar hread
    exact ⟨r, htime, .inr ⟨'t', .inr rfl, hcs⟩⟩
  · obtain ⟨rfl, rfl⟩ := hchar hread
    exact ⟨r, htime, .inl rfl⟩

/-- Whatever separates a time from its date, its hours and minutes are the same. -/
theorem shortTime_unique {s s' : Item} (hs : s ∈ separators) (hs' : s' ∈ separators)
    {x x' : Reading × List Char} (h : readItems? (s :: shortTime) f cs = some x)
    (h' : readItems? (s' :: shortTime) f cs = some x') : x = x' := by
  obtain ⟨r, hr, hsep⟩ := exists_separated hs h
  obtain ⟨r', hr', hsep'⟩ := exists_separated hs' h'
  -- a letter is not white space, and no time begins with one
  have hletter {c : Char} {r r' : List Char} {x : Reading × List Char} (hc : c = 'T' ∨ c = 't')
      (hcs : cs = c :: r) (htrim : trimStart cs = trimStart r') :
      readItems? shortTime f r' ≠ some x := by
    intro hread
    obtain ⟨d, rest, hd, hdigit⟩ := exists_digit_of_shortTime hread
    have hself : trimStart cs = c :: r := by
      rw [hcs]
      apply trimStart_eq_self
      rintro _ ⟨⟩
      rcases hc with rfl | rfl <;> decide
    obtain rfl := (List.cons.inj (hself.symm.trans (htrim.trans hd))).1
    rcases hc with rfl | rfl <;> exact absurd hdigit (by decide)
  have hsame : readItems? shortTime f r = readItems? shortTime f r' := by
    rcases hsep with htrim | ⟨c, hc, hcs⟩ <;> rcases hsep' with htrim' | ⟨c', hc', hcs'⟩
    · exact readItems?_shortTime_congr (htrim.symm.trans htrim')
    · exact absurd hr (hletter hc' hcs' htrim)
    · exact absurd hr' (hletter hc hcs htrim')
    · rw [(List.cons.inj (hcs.symm.trans hcs')).2]
  exact Option.some.inj (hr.symm.trans (hsame.trans hr'))

/-- No time stands at the end of a text. -/
theorem shortTime_ne_nil {s : Item} (hs : s ∈ separators) {x : Reading × List Char} :
    readItems? (s :: shortTime) f [] ≠ some x := by
  intro h
  obtain ⟨r, hr, hsep⟩ := exists_separated hs h
  rcases hsep with htrim | ⟨c, -, hcs⟩
  · obtain ⟨d, rest, hd, -⟩ := exists_digit_of_shortTime hr
    cases htrim.trans hd
  · cases hcs

/-- A text that ends with its seconds has no offset behind them. -/
theorem readItems?_offset_ne (h : readItems? [.char ':', .second, .fraction] f cs = some (g, []))
    {x : Reading × List Char} :
    readItems? [.char ':', .second, .fraction, .offset] f cs ≠ some x := by
  intro hoffset
  have happend : [Item.char ':', .second, .fraction, .offset] =
      [.char ':', .second, .fraction] ++ [.offset] := rfl
  obtain ⟨g', r, hseconds, hend⟩ := readItems?_append_eq_some (happend ▸ hoffset)
  cases h.symm.trans hseconds
  cases hend

/-- What is behind the minutes tells the shape, and its fields are the same. -/
theorem behindMinutes?_unique {k k' : Shape} {behind behind' : List Item}
    (hk : k.behindMinutes? = some behind) (hk' : k'.behindMinutes? = some behind')
    (h : readItems? behind f cs = some (g, [])) (h' : readItems? behind' f cs = some (f', [])) :
    k = k' ∧ g = f' := by
  suffices hsame : k = k' by
    subst hsame
    cases hk.symm.trans hk'
    cases h.symm.trans h'
    exact ⟨rfl, rfl⟩
  cases k <;> cases k' <;> cases hk <;> cases hk'
  · rfl
  · cases h
    cases h'
  · cases h
    cases h'
  · cases h'
    cases h
  · rfl
  · exact absurd h' (readItems?_offset_ne h)
  · cases h'
    cases h
  · exact absurd h (readItems?_offset_ne h')
  · rfl

/-- The stages in which a text with a time is read: its date, the minutes, and what is behind. -/
theorem exists_stages {s : Item} {behind : List Item}
    (h : read? (Pattern.date ++ s :: (shortTime ++ behind)) cs = some f) :
    ∃ g r g' r', readItems? Pattern.date .start cs = some (g, r) ∧
      readItems? (s :: shortTime) g r = some (g', r') ∧ readItems? behind g' r' = some (f, []) := by
  obtain ⟨g, r, hdate, h⟩ := readItems?_append_eq_some (read?_eq_some_iff.1 h)
  rw [← List.cons_append] at h
  obtain ⟨g', r', htime, hbehind⟩ := readItems?_append_eq_some h
  exact ⟨g, r, g', r', hdate, htime, hbehind⟩

/-- A text has one shape and one reading in it. -/
theorem Reads.unique {k k' : Shape} (h : Reads k cs f) (h' : Reads k' cs f') : k = k' ∧ f = f' := by
  cases h with
  | date h =>
    cases h' with
    | date h' => exact ⟨rfl, Option.some.inj (h.symm.trans h')⟩
    | time _ hs' h' =>
      obtain ⟨g, r, _, _, hdate, htime, -⟩ := exists_stages h'
      cases (read?_eq_some_iff.1 h).symm.trans hdate
      exact absurd htime (shortTime_ne_nil hs')
  | time hk hs h =>
    obtain ⟨g, r, _, _, hdate, htime, hbehind⟩ := exists_stages h
    cases h' with
    | date h' =>
      cases (read?_eq_some_iff.1 h').symm.trans hdate
      exact absurd htime (shortTime_ne_nil hs)
    | time hk' hs' h' =>
      obtain ⟨_, _, _, _, hdate', htime', hbehind'⟩ := exists_stages h'
      cases hdate.symm.trans hdate'
      cases shortTime_unique hs hs' htime htime'
      exact behindMinutes?_unique hk hk' hbehind hbehind'

/-! ## The strict form -/

theorem mem_separators_of_readChar? (h : (readChar? 'T' cs).or
    ((readChar? 't' cs).or (readChar? ' ' cs)) = some r) :
    ∃ c, .char c ∈ separators ∧ readChar? c cs = some r := by
  rcases Option.or_eq_some_iff.1 h with h | ⟨-, h⟩
  · exact ⟨'T', by simp [separators], h⟩
  · rcases Option.or_eq_some_iff.1 h with h | ⟨-, h⟩
    · exact ⟨'t', by simp [separators], h⟩
    · exact ⟨' ', by simp [separators], h⟩

/-- The strict form from its fraction on has the fields that the patterns read. -/
theorem readItems?_of_strictEnd {result : Nat → Int → Reading}
    (h : (match cs with
      | '.' :: r => (readFraction? r).bind fun (nano, r) => (readStrictOffset? r).bind
          fun (east, r) => if r.isEmpty then some (result nano east) else none
      | r => (readStrictOffset? r).bind
          fun (east, r) => if r.isEmpty then some (result 0 east) else none) = some f) :
    ∃ nano east, f = result nano east ∧ ∀ g, g.nano = 0 →
      readItems? [.fraction, .offset] g cs = some ({ g with nano := nano, east := east }, []) := by
  -- with or without a fraction, the rest is an offset up to the end
  have hoffset {r : List Char} {nano : Nat}
      (hfraction : ∀ g, g.nano = 0 → Item.fraction.read? g cs = some ({ g with nano := nano }, r))
      (h : ((readStrictOffset? r).bind fun (east, r) =>
        if r.isEmpty then some (result nano east) else none) = some f) :
      ∃ nano east, f = result nano east ∧ ∀ g, g.nano = 0 →
        readItems? [.fraction, .offset] g cs = some ({ g with nano := nano, east := east }, []) := by
    obtain ⟨⟨east, rest⟩, hoffset, h⟩ := Option.bind_eq_some_iff.1 h
    dsimp only at h
    split at h
    · rename_i hrest
      cases h
      refine ⟨nano, east, rfl, fun g hg => ?_⟩
      rw [readItems?_cons (hfraction g hg), readItems?_cons
        (by rw [Item.read?, readLooseOffset?_of_readStrictOffset? hoffset]; rfl)]
      rw [List.isEmpty_iff.1 hrest]
      rfl
    · cases h
  split at h
  · obtain ⟨⟨nano, r⟩, hfraction, h⟩ := Option.bind_eq_some_iff.1 h
    exact hoffset (fun g _ => by rw [Item.read?, hfraction]; rfl) h
  · rename_i hpoint
    refine hoffset (fun g hg => ?_) h
    have hself : Item.fraction.read? g cs = some (g, cs) := by
      cases cs with
      | nil => rfl
      | cons c cs => exact Item.read?_fraction_of_ne (fun hc => hpoint cs (by rw [hc])) g cs
    rw [hself, ← hg]

/-- The strict form is a text with an offset, and has the fields that the patterns read. -/
theorem reads_of_readStrict? (h : readStrict? cs = some f) : Reads .offset cs f := by
  unfold readStrict? at h
  obtain ⟨⟨year, r₁⟩, hyear, h⟩ := Option.bind_eq_some_iff.1 h
  obtain ⟨r₂, hhyphen, h⟩ := Option.bind_eq_some_iff.1 h
  obtain ⟨⟨month, r₃⟩, hmonth, h⟩ := Option.bind_eq_some_iff.1 h
  obtain ⟨r₄, hhyphen', h⟩ := Option.bind_eq_some_iff.1 h
  obtain ⟨⟨day, r₅⟩, hday, h⟩ := Option.bind_eq_some_iff.1 h
  obtain ⟨r₆, hseparator, h⟩ := Option.bind_eq_some_iff.1 h
  obtain ⟨⟨hour, r₇⟩, hhour, h⟩ := Option.bind_eq_some_iff.1 h
  obtain ⟨r₈, hcolon, h⟩ := Option.bind_eq_some_iff.1 h
  obtain ⟨⟨minute, r₉⟩, hminute, h⟩ := Option.bind_eq_some_iff.1 h
  obtain ⟨r₁₀, hcolon', h⟩ := Option.bind_eq_some_iff.1 h
  obtain ⟨⟨second, r₁₁⟩, hsecond, h⟩ := Option.bind_eq_some_iff.1 h
  obtain ⟨c, hc, hseparator⟩ := mem_separators_of_readChar? hseparator
  obtain ⟨nano, east, rfl, hend⟩ := readItems?_of_strictEnd h
  refine .time rfl hc (read?_eq_some_iff.2 ?_)
  simp only [Pattern.date, shortTime, List.cons_append, List.nil_append]
  rw [readItems?_cons (by rw [Item.read?, readYear?_of_readNumber? hyear]; rfl),
    readItems?_cons (by rw [Item.read?, hhyphen]; rfl),
    readItems?_cons (by rw [Item.read?, two?_of_readNumber? hmonth]; rfl),
    readItems?_cons (by rw [Item.read?, hhyphen']; rfl),
    readItems?_cons (by rw [Item.read?, two?_of_readNumber? hday]; rfl),
    readItems?_cons (by rw [Item.read?, hseparator]; rfl),
    readItems?_cons (by rw [Item.read?, two?_of_readNumber? hhour]; rfl),
    readItems?_cons (by rw [Item.read?, hcolon]; rfl),
    readItems?_cons (by rw [Item.read?, two?_of_readNumber? hminute]; rfl),
    readItems?_cons (by rw [Item.read?, hcolon']; rfl),
    readItems?_cons (by rw [Item.read?, two?_of_readNumber? hsecond]; rfl)]
  exact hend _ rfl

end PgRole.Calendar
