import PgRole.Proofs.Calendar.Shape

/-!
# Texts of moments are read one way only

* `Reads.exists_carriesOffset`, `Reads.not_carriesOffset`: a text carries an offset just if it is of
  the shape with one.
* `Moment.toNanos_of_minutesEarlier?`: taking minutes off a moment is subtraction, and leaves the
  seconds as they are.
* `read_one_way`: every reading that accepts a text gives the same date and time, and every reading
  as an instant the same instant, so that the order in which they are tried does not matter; and the
  instant is the date and time less the offset that the text carries.
-/

namespace PgRole.Calendar

open Text Pattern

variable {cs r : List Char} {f g : Reading}

/-! ## Offsets -/

/-- The characters that an offset begins with. -/
def offsetStarts : List Char := ['Z', 'z', '+', '-', '\u2212']

/-- A text carries an offset if it ends in one, behind a time of day and so behind a colon. -/
def CarriesOffset (cs : List Char) (o : Int) : Prop :=
  ∃ front back, cs = front ++ back ∧ ':' ∈ front ∧ OffsetText back o

theorem not_taken_of_mem_offsetStarts :
    ∀ c ∈ offsetStarts, isBlank c = false ∧ isDigit c = false ∧ c ≠ ':' ∧ c ≠ '.' := by
  intro c hc
  simp only [offsetStarts, List.mem_cons, List.not_mem_nil, or_false] at hc
  rcases hc with rfl | rfl | rfl | rfl | rfl <;> decide

theorem mem_offsetStarts_of_side? {c : Char} {side : Int} (h : side? c = some side) :
    c ∈ offsetStarts := by
  unfold side? at h
  split at h
  · decide
  · decide
  · decide
  · cases h

/-- An offset begins with a sign or a letter for zero, and has none of them behind. -/
theorem OffsetText.exists_cons {o : Int} (h : OffsetText cs o) :
    ∃ c rest, cs = c :: rest ∧ c ∈ offsetStarts ∧ ∀ d ∈ rest, d ∉ offsetStarts := by
  have hdigits {ds : List Char} (hds : ∀ d ∈ ds, isDigit d) : ∀ d ∈ ds, d ∉ offsetStarts := by
    intro d hd hstart
    simpa [(not_taken_of_mem_offsetStarts d hstart).2.1] using hds d hd
  cases h with
  | @zero c h => exact ⟨c, [], rfl, by rcases h with rfl | rfl <;> decide, by simp⟩
  | @signed c side hours between minutes hside hhours hbetween hminutes =>
    refine ⟨c, _, rfl, mem_offsetStarts_of_side? hside, ?_⟩
    refine List.forall_mem_append.2 ⟨hdigits hhours.2, List.forall_mem_append.2 ⟨?_, ?_⟩⟩
    · intro d hd hstart
      obtain ⟨hblank, -, hcolon, -⟩ := not_taken_of_mem_offsetStarts d hstart
      simpa [hblank, hcolon] using hbetween d hd
    · rcases hminutes with rfl | ⟨⟨-, hds⟩, -⟩
      · simp
      · exact hdigits hds

/-- A text stands for one offset at most. -/
theorem OffsetText.unique {o o' : Int} (h : OffsetText cs o) (h' : OffsetText cs o') : o = o' := by
  have hread := readLooseOffset?_eq_some_iff.2 ⟨o, h, rfl⟩
  have hread' := readLooseOffset?_eq_some_iff.2 ⟨o', h', rfl⟩
  rw [hread] at hread'
  have := (Prod.mk.inj (Option.some.inj hread')).1
  omega

/-- A split behind a colon is behind all that has none. -/
theorem exists_of_append_eq {clock rest front back : List Char} (hclock : ':' ∉ clock)
    (hfront : ':' ∈ front) (h : clock ++ rest = front ++ back) :
    ∃ front', front = clock ++ front' ∧ rest = front' ++ back := by
  rcases List.append_eq_append_iff.1 h with ⟨a, hfront', hrest⟩ | ⟨a, hclock', -⟩
  · exact ⟨a, hfront', hrest⟩
  · exact absurd (hclock' ▸ List.mem_append_left a hfront) hclock

/-- The one character of a kind in a text is where a split in front of such a character is. -/
theorem split_unique {xs ys front back : List Char} {c d : Char} {q : Char → Prop}
    (hxs : ∀ x ∈ xs, ¬ q x) (hys : ∀ y ∈ ys, ¬ q y) (hd : q d)
    (h : xs ++ c :: ys = front ++ d :: back) : c :: ys = d :: back := by
  induction xs generalizing front with
  | nil =>
    cases front with
    | nil => exact h
    | cons a front =>
      obtain ⟨rfl, hrest⟩ := List.cons.inj h
      exact absurd hd (hys d (hrest ▸ by simp))
  | cons x xs ih =>
    obtain ⟨hx, hxs⟩ := List.forall_mem_cons.1 hxs
    cases front with
    | nil =>
      obtain ⟨rfl, -⟩ := List.cons.inj h
      exact absurd hd hx
    | cons a front => exact ih hxs (List.cons.inj h).2

/-- No offset is behind a colon that is followed by digits, points, colons and white space only. -/
theorem not_carriesOffset_append {clock behind : List Char} (hclock : ':' ∉ clock)
    (hbehind : ∀ c ∈ behind, c ∉ offsetStarts) (o : Int) : ¬ CarriesOffset (clock ++ behind) o := by
  rintro ⟨front, back, h, hcolon, hoffset⟩
  obtain ⟨front', -, rfl⟩ := exists_of_append_eq hclock hcolon h
  obtain ⟨c, rest, rfl, hc, -⟩ := hoffset.exists_cons
  exact hbehind c (by simp) hc

/-- The offset that a text ends in is the one that it carries. -/
theorem carriesOffset_iff_of_append {clock behind back : List Char} {o o' : Int}
    (hclock : ':' ∉ clock) (hcolon : ':' ∈ behind) (hbehind : ∀ c ∈ behind, c ∉ offsetStarts)
    (hback : OffsetText back o) : CarriesOffset (clock ++ (behind ++ back)) o' ↔ o' = o := by
  constructor
  · rintro ⟨front, back', h, hfront, hoffset⟩
    obtain ⟨front', -, h⟩ := exists_of_append_eq hclock hfront h
    obtain ⟨c, rest, rfl, hc, hrest⟩ := hback.exists_cons
    obtain ⟨d, rest', rfl, hd, -⟩ := hoffset.exists_cons
    rw [split_unique hbehind hrest hd h] at hback
    exact hoffset.unique hback
  · rintro rfl
    exact ⟨clock ++ behind, back, (List.append_assoc ..).symm, List.mem_append_right clock hcolon,
      hback⟩

/-! ## Shapes and offsets -/

theorem took_date {x : Reading × List Char} (h : readItems? Pattern.date f cs = some x) :
    Took (· ≠ ':') cs x.2 := by
  refine took_readItems? (by simp [Pattern.date]) (fun i hi c hc => ?_) h
  rintro rfl
  simp only [Pattern.date, List.mem_cons, List.not_mem_nil, or_false] at hi
  rcases hi with rfl | rfl | rfl | rfl | rfl <;> revert hc <;> unfold Item.Takes <;> decide

theorem took_hour {s : Item} (hs : s ∈ separators) {x : Reading × List Char}
    (h : readItems? [s, .hour] f cs = some x) : Took (· ≠ ':') cs x.2 := by
  simp only [separators, List.mem_cons, List.not_mem_nil, or_false] at hs
  refine took_readItems? ?_ (fun i hi c hc => ?_) h
  · rcases hs with rfl | rfl | rfl | rfl <;> simp
  · rintro rfl
    simp only [List.mem_cons, List.not_mem_nil, or_false] at hi
    rcases hi with rfl | rfl
    · rcases hs with rfl | rfl | rfl | rfl <;> revert hc <;> unfold Item.Takes <;> decide
    · revert hc
      unfold Item.Takes
      decide

/-- Behind the hours, and up to an offset, nothing is that an offset begins with. -/
theorem took_minutes {p : List Item} (hp : ∀ i ∈ p, i ∈ [.char ':', .minute, .second, .fraction])
    {x : Reading × List Char} (h : readItems? p f cs = some x) : Took (· ∉ offsetStarts) cs x.2 := by
  refine took_readItems? (fun hoffset => by simpa using hp _ hoffset) (fun i hi c hc hstart => ?_) h
  obtain ⟨hblank, hdigit, hcolon, hpoint⟩ := not_taken_of_mem_offsetStarts c hstart
  simp only [List.mem_cons, List.not_mem_nil, or_false] at hp
  rcases hp i hi with rfl | rfl | rfl | rfl <;> simp_all [Item.Takes]

/-- A text up to its first colon, from there on to its offset, and the offset, if it has one. -/
theorem Reads.exists_parts {k : Shape} (h : Reads k cs f) :
    ∃ clock behind back, cs = clock ++ (behind ++ back) ∧ ':' ∉ clock ∧
      (∀ c ∈ behind, c ∉ offsetStarts) ∧
      (k = .offset → ':' ∈ behind ∧ ∃ o, OffsetText back o ∧ f.east = 60 * o) ∧
      (k ≠ .offset → back = []) := by
  cases h with
  | date h =>
    obtain ⟨clock, rfl, hclock⟩ := took_date (read?_eq_some_iff.1 h)
    exact ⟨clock, [], [], rfl, fun hcolon => hclock ':' hcolon rfl, by simp, by simp, by simp⟩
  | @time k behind s _ _ hk hs hread =>
    -- the clock is what is read up to the first colon: date and hour take none
    obtain ⟨g, r, hdate, htime⟩ := readItems?_append_eq_some (read?_eq_some_iff.1 hread)
    have hitems : s :: (shortTime ++ behind) = [s, .hour] ++ (.char ':' :: .minute :: behind) := rfl
    obtain ⟨g', r', hhour, hbehind⟩ := readItems?_append_eq_some (hitems ▸ htime)
    obtain ⟨clock, rfl, hclock⟩ := (took_date hdate).trans (took_hour hs hhour)
    obtain ⟨⟨_, r''⟩, hcolon, hminutes⟩ := Option.bind_eq_some_iff.1 hbehind
    obtain ⟨_, hcolon, heq⟩ := Option.map_eq_some_iff.1 hcolon
    cases heq
    obtain rfl := eq_cons_of_readChar? hcolon
    have hclock : ':' ∉ clock := fun hcolon => hclock ':' hcolon rfl
    have hstart : ':' ∉ offsetStarts := by decide
    by_cases hoffset : k = .offset
    · subst hoffset
      cases hk
      -- seconds and blanks take no sign, so the offset begins where they end
      obtain ⟨g₂, r₂, hseconds, hend⟩ := readItems?_append_eq_some
        (p := [.minute, .char ':', .second, .fraction]) (q := [.offset]) hminutes
      obtain ⟨⟨_, _⟩, hend, heq⟩ := Option.bind_eq_some_iff.1 hend
      cases heq
      obtain ⟨⟨e, _⟩, hend, heq⟩ := Option.map_eq_some_iff.1 hend
      cases heq
      have hblanks : Took (· ∉ offsetStarts) r₂ (trimStart r₂) :=
        (Took.dropWhile isBlank r₂).mono fun c hc hstart => by
          simp [(not_taken_of_mem_offsetStarts c hstart).1] at hc
      obtain ⟨taken, rfl, htaken⟩ := (took_minutes (by simp) hseconds).trans hblanks
      exact ⟨clock, ':' :: taken, trimStart r₂, rfl, hclock, List.forall_mem_cons.2 ⟨hstart, htaken⟩,
        fun _ => ⟨List.mem_cons_self, readLooseOffset?_eq_some_iff.1 hend⟩, fun h => absurd rfl h⟩
    · obtain ⟨taken, rfl, htaken⟩ : Took (· ∉ offsetStarts) r'' [] := by
        refine took_minutes (fun i hi => ?_) hminutes
        cases k with
        | date => cases hk
        | minutes =>
          cases hk
          simp_all
        | seconds =>
          cases hk
          simp only [List.mem_cons, List.not_mem_nil, or_false] at hi ⊢
          tauto
        | offset => exact absurd rfl hoffset
      exact ⟨clock, ':' :: taken, [], rfl, hclock, List.forall_mem_cons.2 ⟨hstart, htaken⟩,
        fun h => absurd h hoffset, fun _ => rfl⟩

/-- A text of the shape with an offset carries the one of its fields, and no other. -/
theorem Reads.exists_carriesOffset (h : Reads .offset cs f) :
    ∃ o, f.east = 60 * o ∧ ∀ o', CarriesOffset cs o' ↔ o' = o := by
  obtain ⟨clock, behind, back, rfl, hclock, hbehind, hoffset, -⟩ := h.exists_parts
  obtain ⟨hcolon, o, hback, heast⟩ := hoffset rfl
  exact ⟨o, heast, fun o' => carriesOffset_iff_of_append hclock hcolon hbehind hback⟩

/-- A text of another shape carries no offset. -/
theorem Reads.not_carriesOffset {k : Shape} (hk : k ≠ .offset) (h : Reads k cs f) (o : Int) :
    ¬ CarriesOffset cs o := by
  obtain ⟨clock, behind, back, rfl, hclock, hbehind, -, hback⟩ := h.exists_parts
  rw [hback hk, List.append_nil]
  exact not_carriesOffset_append hclock hbehind o

/-! ## Readings -/

/-- What the fields of a text of a shape show as a date and time. -/
def Shape.moment? : Shape → Reading → Option Moment
  | date, f => f.date?.map fun d => ⟨d, .midnight⟩
  | minutes, f => f.moment?
  | seconds, f => f.moment?
  | offset, f => f.instant?.bind fun _ => f.moment?

/-- What the fields of a text of a shape show as an instant. -/
def Shape.instant? : Shape → Reading → Option Moment
  | offset, f => f.instant?
  | k, f => k.moment? f

/-- The readings of texts without an offset, in the order in which they are tried. -/
def plainReadings : List (List Char → Option Moment) :=
  moments.map (fun p cs => (read? p cs).bind Reading.moment?) ++
    [fun cs => (date? cs).map fun d => ⟨d, .midnight⟩]

/-- The readings as a date and time, in the order in which they are tried. -/
def momentReadings : List (List Char → Option Moment) :=
  plainReadings ++ [fun cs => (readStrict? cs).bind fun f => f.instant?.bind fun _ => f.moment?]

/-- The readings as an instant, in the order in which they are tried. -/
def instantReadings : List (List Char → Option Moment) :=
  [fun cs => (readStrict? cs).bind Reading.instant?,
    fun cs => (read? zoned cs).bind Reading.instant?] ++ plainReadings

theorem findSome?_cons_eq_or {α β : Type} (p : α → Option β) (a : α) (l : List α) :
    (a :: l).findSome? p = (p a).or (l.findSome? p) := by
  rw [List.findSome?_cons]
  cases p a <;> rfl

theorem findSome?_plainReadings (cs : List Char) :
    plainReadings.findSome? (fun read => read cs) = plainMoment? cs := by
  rw [plainReadings, List.findSome?_append, List.findSome?_map, findSome?_cons_eq_or,
    List.findSome?_nil, Option.or_none, plainMoment?]
  rfl

theorem findSome?_momentReadings (cs : List Char) :
    momentReadings.findSome? (fun read => read cs) = moment? cs := by
  rw [momentReadings, List.findSome?_append, findSome?_plainReadings, findSome?_cons_eq_or,
    List.findSome?_nil, Option.or_none, moment?]

theorem findSome?_instantReadings (cs : List Char) :
    instantReadings.findSome? (fun read => read cs) = instant? cs := by
  rw [instantReadings, List.findSome?_append, findSome?_plainReadings, findSome?_cons_eq_or,
    findSome?_cons_eq_or, List.findSome?_nil, Option.or_none, instant?]

/-- The first that gives anything is the same in every order, if all that give anything agree. -/
theorem findSome?_eq_of_perm {α β : Type} {p : α → Option β} {l l' : List α} (hperm : l.Perm l')
    (hagree : ∀ a ∈ l', ∀ b, p a = some b → l'.findSome? p = some b) :
    l.findSome? p = l'.findSome? p := by
  cases h : l.findSome? p with
  | none =>
    rw [List.findSome?_eq_none_iff] at h
    exact (List.findSome?_eq_none_iff.2 fun a ha => h a (hperm.mem_iff.2 ha)).symm
  | some b =>
    obtain ⟨a, ha, hb⟩ := List.exists_of_findSome?_eq_some h
    exact (hagree a (hperm.mem_iff.1 ha) b hb).symm

/-- A text that is read without an offset shows the same as an instant and as a date and time. -/
theorem exists_reads_of_mem_plainReadings {read : List Char → Option Moment}
    (hread : read ∈ plainReadings) {m : Moment} (h : read cs = some m) :
    ∃ k f, Reads k cs f ∧ k.moment? f = some m ∧ k.instant? f = some m := by
  rcases List.mem_append.1 hread with hread | hread
  · obtain ⟨p, hp, rfl⟩ := List.mem_map.1 hread
    obtain ⟨f, hf, hm⟩ := Option.bind_eq_some_iff.1 h
    simp only [moments, List.mem_cons, List.not_mem_nil, or_false] at hp
    rcases hp with rfl | rfl | rfl | rfl
    · exact ⟨.seconds, f, .time rfl (by simp [separators]) hf, hm, hm⟩
    · exact ⟨.seconds, f, .time rfl (by simp [separators]) hf, hm, hm⟩
    · exact ⟨.minutes, f, .time rfl (by simp [separators]) hf, hm, hm⟩
    · exact ⟨.minutes, f, .time rfl (by simp [separators]) hf, hm, hm⟩
  · obtain rfl := List.mem_singleton.1 hread
    obtain ⟨d, hd, rfl⟩ := Option.map_eq_some_iff.1 h
    obtain ⟨f, hf, hdate⟩ := Option.bind_eq_some_iff.1 hd
    have hshown : (f.date?.map fun d => (⟨d, .midnight⟩ : Moment)) = some ⟨d, .midnight⟩ := by
      rw [hdate, Option.map_some]
    exact ⟨.date, f, .date hf, hshown, hshown⟩

/-- Whatever reads a text as a date and time goes by its shape and its fields. -/
theorem exists_reads_of_mem_momentReadings {read : List Char → Option Moment}
    (hread : read ∈ momentReadings) {m : Moment} (h : read cs = some m) :
    ∃ k f, Reads k cs f ∧ k.moment? f = some m := by
  rcases List.mem_append.1 hread with hread | hread
  · obtain ⟨k, f, hf, hm, -⟩ := exists_reads_of_mem_plainReadings hread h
    exact ⟨k, f, hf, hm⟩
  · obtain rfl := List.mem_singleton.1 hread
    obtain ⟨f, hf, hm⟩ := Option.bind_eq_some_iff.1 h
    exact ⟨.offset, f, reads_of_readStrict? hf, hm⟩

/-- Whatever reads a text as an instant goes by its shape and its fields. -/
theorem exists_reads_of_mem_instantReadings {read : List Char → Option Moment}
    (hread : read ∈ instantReadings) {m : Moment} (h : read cs = some m) :
    ∃ k f, Reads k cs f ∧ k.instant? f = some m := by
  rcases List.mem_append.1 hread with hread | hread
  · simp only [List.mem_cons, List.not_mem_nil, or_false] at hread
    rcases hread with rfl | rfl
    · obtain ⟨f, hf, hm⟩ := Option.bind_eq_some_iff.1 h
      exact ⟨.offset, f, reads_of_readStrict? hf, hm⟩
    · obtain ⟨f, hf, hm⟩ := Option.bind_eq_some_iff.1 h
      exact ⟨.offset, f, .time rfl (by simp [separators]) hf, hm⟩
  · obtain ⟨k, f, hf, -, hm⟩ := exists_reads_of_mem_plainReadings hread h
    exact ⟨k, f, hf, hm⟩

/-- Readings that all go by the shape and the fields of a text agree. -/
theorem eq_of_reads {shown? : Shape → Reading → Option Moment} {m m' : Moment}
    (h : ∃ k f, Reads k cs f ∧ shown? k f = some m)
    (h' : ∃ k f, Reads k cs f ∧ shown? k f = some m') : m = m' := by
  obtain ⟨k, f, hf, hm⟩ := h
  obtain ⟨k', f', hf', hm'⟩ := h'
  obtain ⟨rfl, rfl⟩ := hf.unique hf'
  exact Option.some.inj (hm.symm.trans hm')

/-! ## Moments -/

/-- The nanoseconds from 2000-01-01 00:00:00. -/
def Moment.toNanos (m : Moment) : Int := m.date.toDays * (1000 * Time.dayMicros) + m.time.toNanos

/-- Taking minutes off a moment is subtraction, and leaves its seconds as they are. -/
theorem Moment.toNanos_of_minutesEarlier? {m i : Moment} {minutes : Int}
    (h : m.minutesEarlier? minutes = some i) :
    i.toNanos = m.toNanos - minutes * 60000000000 ∧ i.time.second = m.time.second ∧
      i.time.nano = m.time.nano := by
  obtain ⟨d, hd, rfl⟩ := Option.map_eq_some_iff.1 h
  refine ⟨?_, rfl, rfl⟩
  have hdays := Date.toDays_of_ofDays? hd
  rw [Int.fdiv_eq_ediv_of_nonneg _ (by decide)] at hdays
  simp only [toNanos, Time.toNanos, Time.dayMicros, hdays]
  omega

/-- The instant of fields with an offset is their date and time less the offset. -/
theorem Reading.minutesEarlier?_of_instant? {m i : Moment} {o : Int} (heast : f.east = 60 * o)
    (hm : f.moment? = some m) (hi : f.instant? = some i) : m.minutesEarlier? o = some i := by
  rw [instant?, hm] at hi
  obtain ⟨offset, hoffset, hi⟩ :
      ∃ offset, Offset.ofEast? f.east = some offset ∧
        m.minutesEarlier? (offset.east.tdiv 60) = some i := Option.bind_eq_some_iff.1 hi
  have hminutes : offset.east.tdiv 60 = o := by
    unfold Offset.ofEast? at hoffset
    split at hoffset
    · cases hoffset
      change f.east.tdiv 60 = o
      rw [heast, Int.mul_tdiv_cancel_left _ (by decide)]
    · cases hoffset
  rwa [hminutes] at hi

/-- A text is read one way: whatever reads it gives the result, and so does the first that reads it,
in whatever order they are tried. -/
def ReadOneWay (readings : List (List Char → Option Moment)) (cs : List Char)
    (result : Option Moment) : Prop :=
  (∀ read ∈ readings, ∀ m, read cs = some m → result = some m) ∧
    ∀ order : List _, order.Perm readings → order.findSome? (fun read => read cs) = result

/-- Readings that all go by the shape and the fields of a text read it one way. -/
theorem readOneWay_of_reads {readings : List (List Char → Option Moment)}
    {shown? : Shape → Reading → Option Moment}
    (h : ∀ read ∈ readings, ∀ m, read cs = some m → ∃ k f, Reads k cs f ∧ shown? k f = some m) :
    ReadOneWay readings cs (readings.findSome? fun read => read cs) := by
  have hagree : ∀ read ∈ readings, ∀ m, read cs = some m →
      readings.findSome? (fun read => read cs) = some m := by
    intro read hread m hm
    cases hfirst : readings.findSome? (fun read => read cs) with
    | none => exact absurd hm (by simp [List.findSome?_eq_none_iff.1 hfirst read hread])
    | some m' =>
      obtain ⟨read', hread', hm'⟩ := List.exists_of_findSome?_eq_some hfirst
      rw [eq_of_reads (h read hread m hm) (h read' hread' m' hm')]
  exact ⟨hagree, fun order horder => findSome?_eq_of_perm horder hagree⟩

/-- Whatever reads a text as a date and time gives the same one, and whatever reads it as an instant
the same instant, so that the order of the readings does not matter. A text that is read as both
shows the date and time less the offset that it carries as the instant, and the same if it carries
none. -/
theorem read_one_way (cs : List Char) :
    ReadOneWay momentReadings cs (moment? cs) ∧ ReadOneWay instantReadings cs (instant? cs) ∧
      ∀ m i, moment? cs = some m → instant? cs = some i →
        (∀ o, CarriesOffset cs o → i.toNanos = m.toNanos - o * 60000000000 ∧
          i.time.second = m.time.second ∧ i.time.nano = m.time.nano) ∧
        ((∀ o, ¬ CarriesOffset cs o) → i = m) := by
  have hmoments : ReadOneWay momentReadings cs (moment? cs) := by
    rw [← findSome?_momentReadings]
    exact readOneWay_of_reads fun read hread m hm => exists_reads_of_mem_momentReadings hread hm
  have hinstants : ReadOneWay instantReadings cs (instant? cs) := by
    rw [← findSome?_instantReadings]
    exact readOneWay_of_reads fun read hread m hm => exists_reads_of_mem_instantReadings hread hm
  refine ⟨hmoments, hinstants, fun m i hm hi => ?_⟩
  rw [← findSome?_momentReadings] at hm
  rw [← findSome?_instantReadings] at hi
  obtain ⟨_, hread, hm⟩ := List.exists_of_findSome?_eq_some hm
  obtain ⟨_, hread', hi⟩ := List.exists_of_findSome?_eq_some hi
  obtain ⟨k, f, hf, hm⟩ := exists_reads_of_mem_momentReadings hread hm
  obtain ⟨k', f', hf', hi⟩ := exists_reads_of_mem_instantReadings hread' hi
  -- one reading of each chain reads the text, and a text has only one shape
  obtain ⟨rfl, rfl⟩ := hf.unique hf'
  -- a text with an offset is an instant by it; the others are taken as they stand
  by_cases hoffset : k = .offset
  · subst hoffset
    obtain ⟨i', hi', hm⟩ := Option.bind_eq_some_iff.1 hm
    cases hi.symm.trans hi'
    obtain ⟨o, heast, hcarries⟩ := hf.exists_carriesOffset
    constructor
    · intro o' ho'
      obtain rfl := (hcarries o').1 ho'
      exact Moment.toNanos_of_minutesEarlier? (Reading.minutesEarlier?_of_instant? heast hm hi)
    · exact fun hnone => absurd ((hcarries o).2 rfl) (hnone o)
  · have hsame : k.instant? f = k.moment? f := by
      cases k with
      | offset => exact absurd rfl hoffset
      | _ => rfl
    have him : i = m := Option.some.inj (hi.symm.trans (hsame.trans hm))
    exact ⟨fun o ho => absurd ho (hf.not_carriesOffset hoffset o), fun _ => him⟩

/-- The last second of an hour at an offset, a leap second, on the day after a leap day. With a
blank for the letter both readings with an offset read it, with short numbers only the second does,
and all give the same instant. -/
theorem read_one_way_leap :
    let cs := "2024-03-01T00:30:60.5+01:00".toList
    let spaced := "2024-03-01 00:30:60.5+01:00".toList
    let short := "2024-3-1 0:30:60.5+01:00".toList
    let m : Moment := ⟨⟨2024, 3, 1, by decide⟩, ⟨0, 30, 60, 500000000, by decide⟩⟩
    let i : Moment := ⟨⟨2024, 2, 29, by decide⟩, ⟨23, 30, 60, 500000000, by decide⟩⟩
    moment? cs = some m ∧ instant? cs = some i ∧ CarriesOffset cs 60 ∧
      i.toNanos = m.toNanos - 60 * 60000000000 ∧ i.time.second = m.time.second ∧
        i.time.nano = m.time.nano ∧
      (readStrict? spaced).bind Reading.instant? = some i ∧
      (read? zoned spaced).bind Reading.instant? = some i ∧ instant? spaced = some i ∧
      (readStrict? short).bind Reading.instant? = none ∧
      (read? zoned short).bind Reading.instant? = some i ∧ instant? short = some i := by
  intro cs spaced short m i
  have hm : moment? cs = some m := by decide +kernel
  have hi : instant? cs = some i := by decide +kernel
  have hoffset : CarriesOffset cs 60 := by
    have digits {c d : Char} (hc : isDigit c) (hd : isDigit d) : TwoDigits [c, d] :=
      ⟨rfl, List.forall_mem_cons.2 ⟨hc, List.forall_mem_singleton.2 hd⟩⟩
    have hours : TwoDigits ['0', '1'] := digits rfl rfl
    have minutes : TwoDigits ['0', '0'] := digits rfl rfl
    have htext : OffsetText ('+' :: (['0', '1'] ++ ([':'] ++ ['0', '0'])))
        (1 * (60 * valueOf ['0', '1'] + valueOf ['0', '0'])) :=
      .signed rfl hours (List.forall_mem_singleton.2 (.inl rfl)) (.inr ⟨minutes, by decide⟩)
    exact ⟨"2024-03-01T00:30:60.5".toList, "+01:00".toList, by decide, by decide, htext⟩
  have hspaced : (read? zoned spaced).bind Reading.instant? = some i := by decide +kernel
  have hshort : (read? zoned short).bind Reading.instant? = some i := by decide +kernel
  have hread (cs : List Char) (h : (read? zoned cs).bind Reading.instant? = some i) :
      instant? cs = some i :=
    (read_one_way cs).2.1.1 _ (List.mem_cons_of_mem _ List.mem_cons_self) i h
  obtain ⟨hnanos, hsecond, hnano⟩ := ((read_one_way cs).2.2 m i hm hi).1 60 hoffset
  exact ⟨hm, hi, hoffset, hnanos, hsecond, hnano, by decide +kernel, hspaced, hread spaced hspaced,
    by decide +kernel, hshort, hread short hshort⟩

end PgRole.Calendar
