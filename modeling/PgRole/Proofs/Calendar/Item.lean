import Mathlib.Tactic.Ring
import PgRole.Proofs.Calendar.Pattern

/-!
# What items take off the front of a text

Each item of a pattern takes characters of its own kind, so that the kinds of the items bound what a
whole pattern takes (`Pattern.took_readItems?`); an offset is left out of this.

* `readLooseOffset?_eq_some_iff`: an offset is read from just the texts that stand for one
  (`OffsetText`).
* `two?_of_readNumber?`, `readYear?_of_readNumber?`, `readLooseOffset?_of_readStrictOffset?`: a
  field in its strict form, with all its digits, is read alike where fewer would do.
-/

namespace PgRole.Calendar

open Text

variable {cs r : List Char}

/-! ## Numbers -/

/-- A number that is read is the digits in front, as many as are allowed. -/
theorem readNumber?_eq_some {least most n : Nat} (h : readNumber? least most cs = some (n, r)) :
    ∃ ds, cs = ds ++ r ∧ (∀ c ∈ ds, isDigit c) ∧ least ≤ ds.length ∧ ds.length ≤ most ∧
      valueOf ds = n := by
  unfold readNumber? at h
  dsimp only at h
  split at h
  · rename_i hleast
    cases h
    have hprefix : (cs.take most).takeWhile isDigit <+: cs :=
      (List.takeWhile_prefix _).trans (List.take_prefix most cs)
    obtain ⟨rest, hrest⟩ := hprefix
    refine ⟨_, ?_, fun c hc => List.mem_takeWhile_imp hc, hleast, ?_, rfl⟩
    · generalize (cs.take most).takeWhile isDigit = ds at hrest ⊢
      rw [← hrest, List.drop_left]
    · have hlength := (List.takeWhile_prefix (l := cs.take most) isDigit).length_le
      rw [List.length_take] at hlength
      omega
  · cases h

/-- A number with digits enough has enough for a lesser count. -/
theorem readNumber?_of_le {least least' most : Nat} {x : Nat × List Char} (hle : least' ≤ least)
    (h : readNumber? least most cs = some x) : readNumber? least' most cs = some x := by
  unfold readNumber? at h ⊢
  dsimp only at h ⊢
  split at h
  · rw [if_pos (by omega), h]
  · cases h

theorem exists_cons_of_readNumber? {least most : Nat} {x : Nat × List Char} (hleast : 1 ≤ least)
    (h : readNumber? least most cs = some x) : ∃ c rest, cs = c :: rest ∧ isDigit c := by
  obtain ⟨ds, hcs, hdigits, hlength, -⟩ := readNumber?_eq_some (n := x.1) (r := x.2) h
  cases ds with
  | nil =>
    rw [List.length_nil] at hlength
    omega
  | cons c ds => exact ⟨c, ds ++ x.2, hcs, hdigits c List.mem_cons_self⟩

theorem trimStart_of_readNumber? {least most : Nat} {x : Nat × List Char} (hleast : 1 ≤ least)
    (h : readNumber? least most cs = some x) : trimStart cs = cs := by
  obtain ⟨c, rest, rfl, hc⟩ := exists_cons_of_readNumber? hleast h
  apply trimStart_eq_self
  rintro _ ⟨⟩
  exact isBlank_of_isDigit hc

theorem two?_of_readNumber? {x : Nat × List Char} (h : readNumber? 2 2 cs = some x) :
    Item.two? cs = some x := by
  rw [Item.two?, trimStart_of_readNumber? (by decide) h]
  exact readNumber?_of_le (by decide) h

theorem readYear?_of_readNumber? {n : Nat} (h : readNumber? 4 4 cs = some (n, r)) :
    readYear? (trimStart cs) = some ((n : Int), r) := by
  have hread := readNumber?_of_le (by decide : 1 ≤ 4) h
  rw [trimStart_of_readNumber? (by decide) h]
  obtain ⟨c, rest, rfl, hc⟩ := exists_cons_of_readNumber? (by decide) h
  rw [readYear?_of_isDigit hc, hread]
  rfl

/-- A character that is read is the first. -/
theorem eq_cons_of_readChar? {c : Char} (h : readChar? c cs = some r) : cs = c :: r := by
  cases cs with
  | nil => cases h
  | cons c' cs =>
    rw [readChar?] at h
    split at h
    · rename_i hc
      cases h
      rw [hc]
    · cases h

/-! ## Kinds of characters -/

/-- What is in front of a rest of a text is characters of a kind only. -/
def Took (p : Char → Prop) (cs r : List Char) : Prop := ∃ taken, cs = taken ++ r ∧ ∀ c ∈ taken, p c

namespace Took

variable {p q : Char → Prop} {s : List Char}

theorem refl (p : Char → Prop) (cs : List Char) : Took p cs cs := ⟨[], rfl, by simp⟩

theorem trans (h : Took p cs r) (h' : Took p r s) : Took p cs s := by
  obtain ⟨taken, rfl, ht⟩ := h
  obtain ⟨taken', rfl, ht'⟩ := h'
  exact ⟨taken ++ taken', (List.append_assoc ..).symm, List.forall_mem_append.2 ⟨ht, ht'⟩⟩

theorem mono (h : Took p cs r) (hpq : ∀ c, p c → q c) : Took q cs r := by
  obtain ⟨taken, rfl, ht⟩ := h
  exact ⟨taken, rfl, fun c hc => hpq c (ht c hc)⟩

theorem cons {c : Char} (hc : p c) : Took p (c :: r) r := ⟨[c], rfl, by simpa using hc⟩

theorem dropWhile (f : Char → Bool) (cs : List Char) : Took (fun c => f c) cs (cs.dropWhile f) :=
  ⟨cs.takeWhile f, List.takeWhile_append_dropWhile.symm, fun _ hc => List.mem_takeWhile_imp hc⟩

theorem number {least most n : Nat} (h : readNumber? least most cs = some (n, r)) :
    Took (fun c => isDigit c) cs r := by
  obtain ⟨ds, hcs, hdigits, -⟩ := readNumber?_eq_some h
  exact ⟨ds, hcs, hdigits⟩

theorem two {n : Nat} (h : Item.two? cs = some (n, r)) :
    Took (fun c => isBlank c ∨ isDigit c) cs r :=
  ((dropWhile isBlank cs).mono fun _ => .inl).trans ((number h).mono fun _ => .inr)

/-- A year takes digits, and a sign in front of them. -/
theorem year {n : Int} (h : readYear? cs = some (n, r)) :
    Took (fun c => isDigit c ∨ c = '-' ∨ c = '+') cs r := by
  unfold readYear? at h
  split at h
  all_goals
    obtain ⟨⟨_, _⟩, h, heq⟩ := Option.map_eq_some_iff.1 h
    cases heq
    have hdigits := (number h).mono (q := fun c => isDigit c ∨ c = '-' ∨ c = '+') fun _ => .inl
  · exact (cons (.inr (.inl rfl))).trans hdigits
  · exact (cons (.inr (.inr rfl))).trans hdigits
  · exact hdigits

theorem fraction {n : Nat} (h : readFraction? cs = some (n, r)) :
    Took (fun c => isDigit c) cs r := by
  unfold readFraction? at h
  dsimp only at h
  split at h
  · cases h
  · cases h
    exact dropWhile isDigit cs

end Took

/-- The characters that an item takes, an offset aside. -/
def Item.Takes : Item → Char → Prop
  | .char c', c => c = c'
  | .blank, c => isBlank c
  | .year, c => isBlank c ∨ isDigit c ∨ c = '-' ∨ c = '+'
  | .fraction, c => isDigit c ∨ c = '.'
  | _, c => isBlank c ∨ isDigit c

/-- A fraction that does not begin with its point is left out. -/
theorem Item.read?_fraction_of_ne {c : Char} (hc : c ≠ '.') (f : Reading) (cs : List Char) :
    Item.fraction.read? f (c :: cs) = some (f, c :: cs) := by
  simp [Item.read?, hc]

/-- An item that is no offset takes characters of its own kind only. -/
theorem Item.took_read? {i : Item} (hi : i ≠ .offset) {f f' : Reading}
    (h : i.read? f cs = some (f', r)) : Took i.Takes cs r := by
  have htwo (g : Nat → Reading) (h : ((two? cs).map fun x => (g x.1, x.2)) = some (f', r)) :
      Took (fun c => isBlank c ∨ isDigit c) cs r := by
    obtain ⟨⟨_, _⟩, hread, heq⟩ := Option.map_eq_some_iff.1 h
    cases heq
    exact .two hread
  -- each item by what it takes; those of two digits alike
  cases i with
  | char c =>
    obtain ⟨_, h, heq⟩ := Option.map_eq_some_iff.1 h
    cases heq
    rw [eq_cons_of_readChar? h]
    exact .cons rfl
  | blank =>
    cases h
    exact .dropWhile isBlank cs
  | year =>
    obtain ⟨⟨_, _⟩, h, heq⟩ := Option.map_eq_some_iff.1 h
    cases heq
    exact ((Took.dropWhile isBlank cs).mono fun _ => .inl).trans ((Took.year h).mono fun _ => .inr)
  | month => exact htwo (fun n => { f with month := n }) h
  | day => exact htwo (fun n => { f with day := n }) h
  | hour => exact htwo (fun n => { f with hour := n }) h
  | minute => exact htwo (fun n => { f with minute := n }) h
  | second => exact htwo (fun n => { f with second := n }) h
  | fraction =>
    cases cs with
    | nil =>
      cases h
      exact .refl _ _
    | cons c cs =>
      by_cases hc : c = '.'
      · subst hc
        obtain ⟨⟨_, _⟩, h, heq⟩ := Option.map_eq_some_iff.1 h
        cases heq
        exact (Took.cons (.inr rfl)).trans ((Took.fraction h).mono fun _ => .inl)
      · rw [read?_fraction_of_ne hc] at h
        cases h
        exact .refl _ _
  | offset => exact absurd rfl hi

/-- A pattern takes characters of its items' kinds. -/
theorem Pattern.took_readItems? {p : List Item} (hp : .offset ∉ p) {q : Char → Prop}
    (hq : ∀ i ∈ p, ∀ c, i.Takes c → q c) {f f' : Reading} (h : readItems? p f cs = some (f', r)) :
    Took q cs r := by
  induction p generalizing f cs with
  | nil =>
    cases h
    exact .refl _ _
  | cons i p ih =>
    obtain ⟨⟨g, s⟩, hi, h⟩ := Option.bind_eq_some_iff.1 h
    obtain ⟨hne, hp⟩ := not_or.1 (mt List.mem_cons.2 hp)
    obtain ⟨hqi, hq⟩ := List.forall_mem_cons.1 hq
    exact ((Item.took_read? (Ne.symm hne) hi).mono hqi).trans (ih hp hq h)

/-! ## Offsets -/

/-- The side of an offset by its sign: 1 for east, -1 for west. -/
def side? : Char → Option Int
  | '+' => some 1
  | '-' => some (-1)
  | '\u2212' => some (-1)
  | _ => none

theorem readSign?_eq_some {west : Bool} (h : readSign? cs = some (west, r)) :
    ∃ c, cs = c :: r ∧ side? c = some (if west then -1 else 1) := by
  unfold readSign? at h
  split at h <;> cases h
  · exact ⟨'+', rfl, rfl⟩
  · exact ⟨'-', rfl, rfl⟩
  · exact ⟨'\u2212', rfl, rfl⟩

theorem isBlank_of_side? {c : Char} {side : Int} (h : side? c = some side) : isBlank c = false := by
  unfold side? at h
  split at h
  · decide
  · decide
  · decide
  · cases h

theorem eastSeconds_eq (west : Bool) (hours minutes : Nat) :
    eastSeconds west hours minutes = 60 * ((if west then -1 else 1) * (60 * hours + minutes)) := by
  unfold eastSeconds
  split <;> push_cast <;> ring

/-- Two decimal digits. -/
def TwoDigits (ds : List Char) : Prop := ds.length = 2 ∧ ∀ c ∈ ds, isDigit c

/-- A text that stands for an offset of so many minutes to the east: `Z`, or a sign, hours of two
digits, and minutes of two digits or none, with any colons and white space in front of the
minutes. -/
inductive OffsetText : List Char → Int → Prop
  | zero {c : Char} (h : c = 'Z' ∨ c = 'z') : OffsetText [c] 0
  | signed {c : Char} {side : Int} {hours between minutes : List Char} (hside : side? c = some side)
    (hhours : TwoDigits hours) (hbetween : ∀ c ∈ between, c = ':' ∨ isBlank c)
    (hminutes : minutes = [] ∨ TwoDigits minutes ∧ valueOf minutes < 60) :
    OffsetText (c :: (hours ++ (between ++ minutes)))
      (side * (60 * valueOf hours + valueOf minutes))

theorem readNumber?_two_iff {n : Nat} :
    readNumber? 2 2 cs = some (n, r) ↔ ∃ ds, TwoDigits ds ∧ cs = ds ++ r ∧ valueOf ds = n := by
  constructor
  · intro h
    obtain ⟨ds, hcs, hdigits, hleast, hmost, hn⟩ := readNumber?_eq_some h
    exact ⟨ds, ⟨by omega, hdigits⟩, hcs, hn⟩
  · rintro ⟨ds, ⟨hlength, hdigits⟩, rfl, rfl⟩
    exact readNumber?_run hdigits (by omega) (by omega) (by omega)

/-- The minutes of an offset, behind colons and white space; none at the end of the text. -/
def readOffsetMinutes? (cs : List Char) : Option (Nat × List Char) :=
  match cs.dropWhile fun c => c = ':' || isBlank c with
  | [] => some (0, [])
  | r => (readNumber? 2 2 r).bind fun (n, r) => if n < 60 then some (n, r) else none

/-- The minutes of an offset are two digits below sixty behind colons and blanks, or are not there
at all. -/
theorem readOffsetMinutes?_eq_some_iff {n : Nat} : readOffsetMinutes? cs = some (n, []) ↔
    ∃ between minutes, (∀ c ∈ between, c = ':' ∨ isBlank c) ∧
      (minutes = [] ∨ TwoDigits minutes ∧ valueOf minutes < 60) ∧ cs = between ++ minutes ∧
        valueOf minutes = n := by
  constructor
  · intro h
    have hbetween : ∀ c ∈ cs.takeWhile fun c => c = ':' || isBlank c, c = ':' ∨ isBlank c := by
      intro c hc
      simpa using List.mem_takeWhile_imp hc
    have hcs :=
      (List.takeWhile_append_dropWhile (p := fun c => c = ':' || isBlank c) (l := cs)).symm
    unfold readOffsetMinutes? at h
    split at h
    · rename_i hnil
      cases h
      exact ⟨_, [], hbetween, .inl rfl, hnil ▸ hcs, rfl⟩
    · obtain ⟨⟨n', r⟩, hread, h⟩ := Option.bind_eq_some_iff.1 h
      obtain ⟨minutes, htwo, hminutes, hn⟩ := readNumber?_two_iff.1 hread
      dsimp only at h
      split at h
      · cases h
        rw [List.append_nil] at hminutes
        exact ⟨_, minutes, hbetween, .inr ⟨htwo, by rwa [hn]⟩, hminutes ▸ hcs, hn⟩
      · cases h
  · rintro ⟨between, minutes, hbetween, hminutes, rfl, rfl⟩
    -- the run of colons and blanks ends at the minutes, which begin with a digit
    have hdrop : (between ++ minutes).dropWhile (fun c => c = ':' || isBlank c) = minutes := by
      apply dropWhile_run
      · intro c hc
        simpa using hbetween c hc
      · intro c hc
        rcases hminutes with rfl | ⟨⟨-, hdigits⟩, -⟩
        · cases hc
        · have hdigit := hdigits c (List.mem_of_mem_head? hc)
          have hcolon : c ≠ ':' := by
            rintro rfl
            exact absurd hdigit (by decide)
          simp [hcolon, isBlank_of_isDigit hdigit]
    unfold readOffsetMinutes?
    rw [hdrop]
    rcases hminutes with rfl | ⟨htwo, hlt⟩
    · rfl
    · have hread := readNumber?_two_iff.2 ⟨minutes, htwo, (List.append_nil minutes).symm, rfl⟩
      split
      · cases htwo.1
      · rw [hread, Option.bind_some]
        exact if_pos hlt

/-- An offset with a sign is its hours and then its minutes. -/
theorem readLooseOffset?_sign {c : Char} {side : Int} (hside : side? c = some side)
    (cs : List Char) :
    readLooseOffset? (c :: cs) = (readNumber? 2 2 cs).bind fun (hours, r) =>
      (readOffsetMinutes? r).map fun (minutes, r) => (60 * (side * (60 * hours + minutes)), r) := by
  -- the minutes are left out or read in the same place, on either side of zero
  have hminutes (west : Bool) (hours : Nat) (r : List Char) :
      (match r.dropWhile fun c => c = ':' || isBlank c with
        | [] => some (eastSeconds west hours 0, [])
        | r => (readNumber? 2 2 r).bind fun (minutes, r) =>
          if minutes < 60 then some (eastSeconds west hours minutes, r) else none) =
        (readOffsetMinutes? r).map fun (minutes, r) =>
          (60 * ((if west then -1 else 1) * (60 * hours + minutes : Int)), r) := by
    unfold readOffsetMinutes?
    split
    · rw [eastSeconds_eq]
      rfl
    · rw [Option.map_bind]
      congr 1
      funext ⟨minutes, r⟩
      dsimp only [Function.comp_apply]
      split
      · rw [eastSeconds_eq]
        rfl
      · rfl
  obtain ⟨west, hread, rfl⟩ : ∃ west, readLooseOffset? (c :: cs) =
      ((readNumber? 2 2 cs).bind fun (hours, r) =>
        match r.dropWhile fun c => c = ':' || isBlank c with
        | [] => some (eastSeconds west hours 0, [])
        | r => (readNumber? 2 2 r).bind fun (minutes, r) =>
          if minutes < 60 then some (eastSeconds west hours minutes, r) else none) ∧
        side = if west then -1 else 1 := by
    unfold side? at hside
    split at hside <;> cases hside
    · exact ⟨false, rfl, rfl⟩
    · exact ⟨true, rfl, rfl⟩
    · exact ⟨true, rfl, rfl⟩
  simp only [hread, hminutes]

/-- An offset begins with a letter for zero or with a sign. -/
theorem side?_of_readLooseOffset? {c : Char} {x : Int × List Char}
    (h : readLooseOffset? (c :: cs) = some x) :
    (c = 'Z' ∨ c = 'z') ∨ ∃ side, side? c = some side := by
  unfold readLooseOffset? at h
  split at h
  · rename_i heq
    exact .inl (.inl (List.cons.inj heq).1)
  · rename_i heq
    exact .inl (.inr (List.cons.inj heq).1)
  · obtain ⟨_, hsign, -⟩ := Option.bind_eq_some_iff.1 h
    obtain ⟨c', heq, hside⟩ := readSign?_eq_some hsign
    rw [(List.cons.inj heq).1]
    exact .inr ⟨_, hside⟩

/-- An offset is read from just the texts that stand for one. -/
theorem readLooseOffset?_eq_some_iff {e : Int} :
    readLooseOffset? cs = some (e, []) ↔ ∃ o, OffsetText cs o ∧ e = 60 * o := by
  constructor
  · intro h
    cases cs with
    | nil => cases h
    | cons c cs =>
      rcases side?_of_readLooseOffset? h with hc | ⟨side, hside⟩
      · obtain ⟨rfl, rfl⟩ : cs = [] ∧ e = 0 := by
          rcases hc with rfl | rfl <;> cases h <;> exact ⟨rfl, rfl⟩
        exact ⟨0, .zero hc, rfl⟩
      · rw [readLooseOffset?_sign hside] at h
        obtain ⟨⟨hours, r⟩, hhours, h⟩ := Option.bind_eq_some_iff.1 h
        obtain ⟨⟨minutes, r'⟩, hminutes, h⟩ := Option.map_eq_some_iff.1 h
        cases h
        obtain ⟨ds, hds, rfl, rfl⟩ := readNumber?_two_iff.1 hhours
        obtain ⟨between, es, hbetween, hes, rfl, rfl⟩ := readOffsetMinutes?_eq_some_iff.1 hminutes
        exact ⟨_, .signed hside hds hbetween hes, rfl⟩
  · rintro ⟨o, h, rfl⟩
    cases h with
    | zero hc => rcases hc with rfl | rfl <;> rfl
    | signed hside hhours hbetween hminutes =>
      rw [readLooseOffset?_sign hside, readNumber?_two_iff.2 ⟨_, hhours, rfl, rfl⟩,
        Option.bind_some]
      dsimp only
      rw [readOffsetMinutes?_eq_some_iff.2 ⟨_, _, hbetween, hminutes, rfl, rfl⟩]
      rfl

/-- An offset of hours and minutes with a colon between them is read in the loose form too. -/
theorem readLooseOffset?_of_readStrictOffset? {x : Int × List Char}
    (h : readStrictOffset? cs = some x) : readLooseOffset? (trimStart cs) = some x := by
  unfold readStrictOffset? at h
  split at h
  · exact h
  · exact h
  · -- a sign, two hours, a colon and two minutes are all taken by the loose form
    obtain ⟨⟨west, r⟩, hsign, h⟩ := Option.bind_eq_some_iff.1 h
    obtain ⟨⟨hours, r'⟩, hhours, h⟩ := Option.bind_eq_some_iff.1 h
    obtain ⟨r'', hcolon, h⟩ := Option.bind_eq_some_iff.1 h
    obtain ⟨⟨minutes, rest⟩, hminutes, h⟩ := Option.bind_eq_some_iff.1 h
    dsimp only at h hhours hcolon hminutes
    split at h
    · rename_i hrange
      cases h
      obtain ⟨c, rfl, hside⟩ := readSign?_eq_some hsign
      have htrim : trimStart (c :: r) = c :: r := by
        apply trimStart_eq_self
        rintro _ ⟨⟩
        exact isBlank_of_side? hside
      have hread : readOffsetMinutes? r' = some (minutes, rest) := by
        obtain ⟨d, ds, rfl, hd⟩ := exists_cons_of_readNumber? (by decide) hminutes
        have hcolon' : d ≠ ':' := by
          rintro rfl
          exact absurd hd (by decide)
        rw [eq_cons_of_readChar? hcolon, readOffsetMinutes?, List.dropWhile_cons_of_pos (by decide),
          List.dropWhile_cons_of_neg (by simp [hcolon', isBlank_of_isDigit hd])]
        dsimp only
        rw [hminutes]
        exact if_pos hrange.2
      rw [htrim, readLooseOffset?_sign hside, hhours, Option.bind_some]
      dsimp only
      rw [hread, eastSeconds_eq]
      rfl
    · cases h

end PgRole.Calendar
