import PgRole.Postgres.Cell
import PgRole.Proofs.Except

/-!
# Octets over which reading panics

Why reading octets may panic, told of the octets alone (`Cell.Panics`): they end too soon, they are
a date or a time beyond all dates, a digit of a numeric value is too great for its place, the mark
in front of a JSON value is not the one that is known, or a list is not whole or has such an
element.

* `Scalar.panics_of_decode`, `panics_of_readList`, `Cell.panics_of_decode`: reading a scalar, a list
  and a cell panics for such a reason only.
-/

namespace PgRole.Postgres

open Attempt

/-! ## Octets off the front -/

/-- So many octets off the front are the first ones, with the rest behind them. -/
theorem take?_eq_some_iff {n : Nat} {bs a r : Bytes} :
    Bytes.take? n bs = some (a, r) ↔ n ≤ bs.length ∧ a = bs.take n ∧ r = bs.drop n := by
  simp only [Bytes.take?, Option.ite_none_right_eq_some, Option.some.injEq, List.splitAt_eq,
    Prod.mk.injEq, @eq_comm Bytes a, @eq_comm Bytes r]

theorem take?_eq_none_iff {n : Nat} {bs : Bytes} : Bytes.take? n bs = none ↔ bs.length < n := by
  simp [Bytes.take?]

theorem length_of_take? {n : Nat} {bs a r : Bytes} (h : Bytes.take? n bs = some (a, r)) :
    a.length = n := by
  obtain ⟨hlen, rfl, -⟩ := take?_eq_some_iff.1 h
  exact List.length_take_of_le hlen

section Front

variable {α β : Type} {g : Bytes → β} {width : Nat} {bs r : Bytes}

/-- What is made of octets off the front is made of them, and the rest is behind them. -/
theorem map_take?_eq_some_iff {b : β} :
    ((Bytes.take? width bs).map fun (a, r) => (g a, r)) = some (b, r) ↔
      ((Bytes.take? width bs).map fun (a, r) => (g a, r)).map (·.1) = some b ∧
        r = bs.drop width := by
  cases h : Bytes.take? width bs with
  | none => simp
  | some x =>
    obtain ⟨-, -, hrest⟩ := take?_eq_some_iff.1 h
    simp [hrest, eq_comm]

theorem takeInt?_eq_some_iff {i : Int} :
    Bytes.takeInt? width bs = some (i, r) ↔ Scalar.int? width bs = some i ∧ r = bs.drop width :=
  map_take?_eq_some_iff

/-- A step that reads octets off the front panics if they are not there, or else after them. -/
theorem panic_of_map_take? {f : β × Bytes → Reading α}
    (h : (orPanic ((Bytes.take? width bs).map fun (a, r) => (g a, r)) >>= f) = .error .panic) :
    bs.length < width ∨
      ∃ b, ((Bytes.take? width bs).map fun (a, r) => (g a, r)).map (·.1) = some b ∧
        f (b, bs.drop width) = .error .panic := by
  rcases bind_eq_error_iff.1 h with h | ⟨⟨b, r⟩, hread, h⟩
  · have hnone := orPanic_eq_panic_iff.1 h
    exact .inl (take?_eq_none_iff.1 (Option.map_eq_none_iff.1 hnone))
  · obtain ⟨hfront, rfl⟩ := map_take?_eq_some_iff.1 (orPanic_eq_ok_iff.1 hread)
    exact .inr ⟨b, hfront, h⟩

theorem panic_of_takeInt? {f : Int × Bytes → Reading α}
    (h : (orPanic (Bytes.takeInt? width bs) >>= f) = .error .panic) :
    bs.length < width ∨
      ∃ i, Scalar.int? width bs = some i ∧ f (i, bs.drop width) = .error .panic :=
  panic_of_map_take? h

theorem panic_of_takeNat? {f : Nat × Bytes → Reading α}
    (h : (orPanic (Bytes.takeNat? width bs) >>= f) = .error .panic) :
    bs.length < width ∨
      ∃ n, Scalar.nat? width bs = some n ∧ f (n, bs.drop width) = .error .panic :=
  panic_of_map_take? h

end Front

namespace Scalar

theorem int?_eq_none_iff {width : Nat} {bs : Bytes} :
    int? width bs = none ↔ bs.length < width := by
  simp [int?, Bytes.takeInt?, take?_eq_none_iff]

theorem nat?_eq_none_iff {width : Nat} {bs : Bytes} :
    nat? width bs = none ↔ bs.length < width := by
  simp [nat?, Bytes.takeNat?, take?_eq_none_iff]

/-- An integer of so many octets is no greater than they allow. -/
theorem natAbs_int?_le {width : Nat} {bs : Bytes} {i : Int} (h : int? width bs = some i) :
    i.natAbs ≤ 256 ^ width := by
  obtain ⟨⟨j, rest⟩, htake, rfl⟩ := Option.map_eq_some_iff.1 h
  obtain ⟨⟨a, r⟩, htake, hj⟩ := Option.map_eq_some_iff.1 htake
  cases hj
  have hpos : 0 < 256 ^ a.length := Nat.pow_pos (by decide)
  have hlow : -((256 ^ a.length : Nat) / 2 : Int) ≤ a.toInt := Int.le_bmod hpos
  have hhigh : a.toInt < ((256 ^ a.length : Nat) + 1) / 2 := Int.bmod_lt hpos
  rw [length_of_take? htake] at hlow hhigh
  omega

end Scalar

/-! ## Numeric values -/

namespace Numeric

/-- The reasons for which reading a numeric value panics: its octets end before the digits or among
them, or a digit is too great for its place. -/
inductive Panics (bs : Bytes) : Prop
  | header (h : bs.length < 8)
  | digits {count : Nat} (hcount : Scalar.nat? 2 bs = some count) (h : bs.length < 8 + 2 * count)
  | digit {count i : Nat} {weight d : Int} (hcount : Scalar.nat? 2 bs = some count) (hi : i < count)
    (hweight : Scalar.int? 2 (bs.drop 2) = some weight)
    (hdigit : Scalar.int? 2 (bs.drop (8 + 2 * i)) = some d)
    (hplace : 0 ≤ weight - i ∧ weight - i ≤ maxWeight)
    (h : Decimal.limit ≤ (d * base ^ (weight - i).toNat).natAbs)

variable {bs : Bytes}

/-- Digits that are not there are cut off. -/
theorem length_lt_of_digits? {n : Nat} (h : digits? n bs = none) : bs.length < 2 * n := by
  induction n generalizing bs with
  | zero => cases h
  | succ n ih =>
    rw [digits?] at h
    cases hd : Bytes.takeInt? 2 bs with
    | none =>
      have hnone : Scalar.int? 2 bs = none := by rw [Scalar.int?, hd, Option.map_none]
      have := Scalar.int?_eq_none_iff.1 hnone
      omega
    | some x =>
      obtain ⟨d, r⟩ := x
      obtain ⟨-, rfl⟩ := takeInt?_eq_some_iff.1 hd
      rw [hd] at h
      cases hrest : digits? n (bs.drop 2) with
      | none =>
        have := ih hrest
        rw [List.length_drop] at this
        omega
      | some ds =>
        simp [hrest] at h

/-- A digit is two octets, at its place. -/
theorem getElem?_of_digits? {n i : Nat} {ds : List Int} {d : Int} (h : digits? n bs = some ds)
    (hd : ds[i]? = some d) : i < n ∧ Scalar.int? 2 (bs.drop (2 * i)) = some d := by
  induction n generalizing bs ds i with
  | zero =>
    cases h
    cases hd
  | succ n ih =>
    obtain ⟨⟨d₀, r⟩, htake, h⟩ := Option.bind_eq_some_iff.1 h
    obtain ⟨ds, hrest, h⟩ := Option.bind_eq_some_iff.1 h
    cases h
    obtain ⟨hfirst, rfl⟩ := takeInt?_eq_some_iff.1 htake
    cases i with
    | zero =>
      cases hd
      exact ⟨Nat.succ_pos n, hfirst⟩
    | succ i =>
      obtain ⟨hi, hint⟩ := ih hrest hd
      refine ⟨Nat.succ_lt_succ hi, ?_⟩
      rw [Nat.mul_succ, Nat.add_comm, ← List.drop_drop]
      exact hint

/-- The value of a digit panics only where it is a whole number that is too great. -/
theorem of_part_eq_panic {d weight : Int} (h : part d weight = .error .panic) :
    (0 ≤ weight ∧ weight ≤ maxWeight) ∧ Decimal.limit ≤ (d * base ^ weight.toNat).natAbs := by
  unfold part at h
  dsimp only at h
  split_ifs at h with hmax hzero hweight hfits
  · cases h
  · exact ⟨by omega, Nat.not_lt.1 hfits⟩

/-- A sum panics only at one of its digits, whose weight is so much less than that of the first. -/
theorem exists_of_sum_eq_panic {ds : List Int} {weight : Int} {total : Int × Nat}
    (h : sum ds weight total = .error .panic) :
    ∃ (i : Nat) (d : Int), ds[i]? = some d ∧ part d (weight - i) = .error .panic := by
  induction ds generalizing weight total with
  | nil => cases h
  | cons d ds ih =>
    rcases bind_eq_error_iff.1 h with h | ⟨p, -, h⟩
    · exact ⟨0, d, rfl, by simpa using h⟩
    · rcases bind_eq_error_iff.1 h with h | ⟨total, -, h⟩
      · exact absurd h orRefuse_ne_panic
      · obtain ⟨i, d', hd, hpart⟩ := ih h
        refine ⟨i + 1, d', hd, ?_⟩
        rw [show weight - ((i + 1 : Nat) : Int) = weight - 1 - i by omega]
        exact hpart

theorem exists_of_ofDigits_eq_panic {negative : Bool} {scale weight : Int} {ds : List Int}
    (h : ofDigits negative scale weight ds = .error .panic) :
    ∃ (i : Nat) (d : Int), ds[i]? = some d ∧ part d (weight - i) = .error .panic := by
  unfold ofDigits at h
  split_ifs at h
  · exact absurd h orRefuse_ne_panic
  · cases h
  · rcases bind_eq_error_iff.1 h with h | ⟨_, -, h⟩
    · exact exists_of_sum_eq_panic h
    · exact absurd h orRefuse_ne_panic

/-- Reading a numeric value panics for a reason only. -/
theorem panics_of_decode (h : decode bs = .error .panic) : Panics bs := by
  -- the four fields in front of the digits, two octets each
  rcases panic_of_takeNat? h with hlen | ⟨count, hcount, h⟩
  · exact .header (by omega)
  rcases panic_of_takeInt? h with hlen | ⟨weight, hweight, h⟩
  · exact .header (by rw [List.length_drop] at hlen; omega)
  rcases panic_of_takeNat? h with hlen | ⟨mark, -, h⟩
  · exact .header (by simp only [List.length_drop] at hlen; omega)
  rcases panic_of_takeInt? h with hlen | ⟨scale, -, h⟩
  · exact .header (by simp only [List.length_drop] at hlen; omega)
  simp only [List.drop_drop] at h
  split_ifs at h
  · cases h
  rcases bind_eq_error_iff.1 h with h | ⟨ds, hds, h⟩
  · have := length_lt_of_digits? (orPanic_eq_panic_iff.1 h)
    rw [List.length_drop] at this
    exact .digits hcount (by omega)
  · rcases bind_eq_error_iff.1 h with h | ⟨_, -, h⟩
    · exact absurd h orRefuse_ne_panic
    · obtain ⟨i, d, hd, hpart⟩ := exists_of_ofDigits_eq_panic h
      obtain ⟨hi, hdigit⟩ := getElem?_of_digits? (orPanic_eq_ok_iff.1 hds) hd
      obtain ⟨hplace, hgreat⟩ := of_part_eq_panic hpart
      rw [List.drop_drop] at hdigit
      exact .digit hcount hi hweight hdigit hplace hgreat

end Numeric

/-! ## Scalars -/

namespace Scalar

/-- How many octets a scalar takes, of those that take no more than that many. -/
def width? : Scalar → Option Nat
  | bool => some 1
  | int2 => some 2
  | int4 | float4 | date => some 4
  | int8 | float8 | time | timestamp | timestamptz => some 8
  | numeric | text | uuid => none

/-- The reasons for which reading a scalar panics: its octets are too few, or they are a date or a
time beyond all dates, as the infinite ones are, or a numeric value that has a reason of its own. -/
inductive Panics (bs : Bytes) : Scalar → Prop
  | short {s : Scalar} {width : Nat} (h : s.width? = some width) (hlen : bs.length < width) :
    Panics bs s
  | date {i : Int} (h : int? 4 bs = some i) (hdate : Calendar.Date.ofDays? i = none) :
    Panics bs .date
  | timestamp {i : Int} (h : int? 8 bs = some i) (hmoment : Calendar.Moment.ofMicros? i = none) :
    Panics bs .timestamp
  | timestamptz {i : Int} (h : int? 8 bs = some i) (hmoment : Calendar.Moment.ofMicros? i = none) :
    Panics bs .timestamptz
  | numeric (h : Numeric.Panics bs) : Panics bs .numeric

/-- What is made of an integer panics if the octets are too few, or if nothing is made of it. -/
theorem short_or_beyond {α : Type} {width : Nat} {bs : Bytes} {f : Int → Option α}
    (h : (orPanic ((int? width bs).bind f) : Reading α) = .error .panic) :
    bs.length < width ∨ ∃ i, int? width bs = some i ∧ f i = none := by
  have hnone := orPanic_eq_panic_iff.1 h
  cases hi : int? width bs with
  | none => exact .inl (int?_eq_none_iff.1 hi)
  | some i =>
    rw [hi] at hnone
    exact .inr ⟨i, rfl, hnone⟩

/-- Reading a scalar panics for a reason only; texts and identifiers never do. -/
theorem panics_of_decode {s : Scalar} {bs : Bytes} (h : s.decode bs = .error .panic) :
    s.Panics bs := by
  cases s with
  | numeric => exact .numeric (Numeric.panics_of_decode h)
  | text => exact absurd h orRefuse_ne_panic
  | uuid => exact absurd h orRefuse_ne_panic
  | bool =>
    refine .short rfl ?_
    cases bs with
    | nil => exact Nat.one_pos
    | cons b bs => cases h
  | int2 | int4 | int8 | time =>
    have hnone := Option.map_eq_none_iff.1 (orPanic_eq_panic_iff.1 h)
    exact .short rfl (int?_eq_none_iff.1 hnone)
  | float4 | float8 =>
    have hnone := Option.map_eq_none_iff.1 (orPanic_eq_panic_iff.1 h)
    exact .short rfl (nat?_eq_none_iff.1 hnone)
  | date =>
    rcases short_or_beyond h with hlen | ⟨i, hi, hdate⟩
    · exact .short rfl hlen
    · exact .date hi hdate
  | timestamp =>
    rcases short_or_beyond h with hlen | ⟨i, hi, hmoment⟩
    · exact .short rfl hlen
    · exact .timestamp hi hmoment
  | timestamptz =>
    rcases short_or_beyond h with hlen | ⟨i, hi, hmoment⟩
    · exact .short rfl hlen
    · exact .timestamptz hi hmoment

end Scalar

/-! ## Lists -/

/-- Octets begin with an element of a list: its length and as many octets, or the length of null. -/
inductive Element (bs : Bytes) : Option Bytes → Bytes → Prop
  | null (h : Scalar.int? 4 bs = some (-1)) : Element bs none (bs.drop 4)
  | cell {size : Nat} (h : Scalar.int? 4 bs = some (size : Int)) (hlen : 4 + size ≤ bs.length) :
    Element bs (some ((bs.drop 4).take size)) (bs.drop (4 + size))

/-- Of so many elements, one is cut off or one is bad, and those in front of it are whole. -/
inductive ElementsPanic (bad : Bytes → Prop) : Nat → Bytes → Prop
  | cutOff {n : Nat} {bs : Bytes} (h : ∀ cell rest, ¬ Element bs cell rest) :
    ElementsPanic bad (n + 1) bs
  | bad {n : Nat} {bs cell rest : Bytes} (h : Element bs (some cell) rest) (hbad : bad cell) :
    ElementsPanic bad (n + 1) bs
  | later {n : Nat} {bs rest : Bytes} {cell : Option Bytes} (h : Element bs cell rest)
    (hlater : ElementsPanic bad n rest) : ElementsPanic bad (n + 1) bs

/-- The reasons for which reading a list panics: what stands in front of its elements is cut off,
there are fewer than none of them, or one of them is a reason, by the number of their type. -/
inductive ListPanics (bad : Nat → Bytes → Prop) (bs : Bytes) : Prop
  | dimensions (h : bs.length < 4)
  | header (hlist : Scalar.int? 4 bs = some 1) (h : bs.length < 20)
  | negative {size : Int} (hlist : Scalar.int? 4 bs = some 1)
    (hsize : Scalar.int? 4 (bs.drop 12) = some size) (h : size < 0)
  | elements {oid size : Nat} (hlist : Scalar.int? 4 bs = some 1)
    (hoid : Scalar.nat? 4 (bs.drop 8) = some oid)
    (hsize : Scalar.int? 4 (bs.drop 12) = some (size : Int))
    (h : ElementsPanic (bad oid) size (bs.drop 20))

/-- A whole element begins with its length. -/
theorem Element.exists_length {bs rest : Bytes} {cell : Option Bytes} (h : Element bs cell rest) :
    ∃ size, Scalar.int? 4 bs = some size ∧ (size = -1 ∨ 0 ≤ size ∧ 4 + size ≤ bs.length) := by
  cases h with
  | null h => exact ⟨-1, h, .inl rfl⟩
  | cell h hlen => exact ⟨_, h, .inr ⟨by omega, by omega⟩⟩

section Lists

variable {α : Type}

/-- Reading elements panics for a reason only, if reading one of them does. -/
theorem panics_of_readElements {read : Bytes → Reading α} {bad : Bytes → Prop}
    (hbad : ∀ cell, read cell = .error .panic → bad cell) {n : Nat} {bs : Bytes}
    (h : readElements read n bs = .error .panic) : ElementsPanic bad n bs := by
  induction n generalizing bs with
  | zero => cases h
  | succ n ih =>
    rcases panic_of_takeInt? h with hlen | ⟨size, hsize, h⟩
    · refine .cutOff fun cell rest hwhole => ?_
      obtain ⟨size, hsize, -⟩ := hwhole.exists_length
      cases (Scalar.int?_eq_none_iff.2 hlen).symm.trans hsize
    dsimp only at h
    split_ifs at h with hnull hnegative
    · subst hnull
      rcases bind_eq_error_iff.1 h with h | ⟨_, -, h⟩
      · exact .later (.null hsize) (ih h)
      · cases h
    · -- of negative lengths only that of null is one
      refine .cutOff fun cell rest hwhole => ?_
      obtain ⟨size', hsize', hlength⟩ := hwhole.exists_length
      obtain rfl := Option.some.inj (hsize.symm.trans hsize')
      omega
    · obtain ⟨m, rfl⟩ := Int.eq_ofNat_of_zero_le (Int.not_lt.1 hnegative)
      rw [Int.toNat_natCast] at h
      rcases bind_eq_error_iff.1 h with h | ⟨⟨cell, r⟩, hcell, h⟩
      · have hlen := take?_eq_none_iff.1 (orPanic_eq_panic_iff.1 h)
        rw [List.length_drop] at hlen
        refine .cutOff fun cell rest hwhole => ?_
        obtain ⟨size', hsize', hlength⟩ := hwhole.exists_length
        obtain rfl := Option.some.inj (hsize.symm.trans hsize')
        omega
      · obtain ⟨hlen, rfl, rfl⟩ := take?_eq_some_iff.1 (orPanic_eq_ok_iff.1 hcell)
        rw [List.length_drop] at hlen
        have hfour := Scalar.int?_eq_none_iff.not.1 (hsize ▸ Option.some_ne_none _)
        have hwhole : Element bs _ _ := .cell hsize (by omega)
        rcases bind_eq_error_iff.1 h with h | ⟨v, -, h⟩
        · exact .bad hwhole (hbad _ h)
        · rcases bind_eq_error_iff.1 h with h | ⟨_, -, h⟩
          · rw [List.drop_drop] at h
            exact .later hwhole (ih h)
          · cases h

/-- Reading a list panics for a reason only, if reading an element does. -/
theorem panics_of_readList {read : Nat → Bytes → Reading α} {bad : Nat → Bytes → Prop}
    (hbad : ∀ oid cell, read oid cell = .error .panic → bad oid cell) {bs : Bytes}
    (h : readList read bs = .error .panic) : ListPanics bad bs := by
  rcases panic_of_takeInt? h with hlen | ⟨dimensions, hlist, h⟩
  · exact .dimensions hlen
  dsimp only at h
  split_ifs at h with hempty hdimensions
  · cases h
  · cases h
  obtain rfl : dimensions = 1 := not_not.1 hdimensions
  rcases panic_of_takeInt? h with hlen | ⟨flags, -, h⟩
  · exact .header hlist (by rw [List.length_drop] at hlen; omega)
  rcases panic_of_takeNat? h with hlen | ⟨oid, hoid, h⟩
  · exact .header hlist (by simp only [List.length_drop] at hlen; omega)
  rcases panic_of_takeInt? h with hlen | ⟨size, hsize, h⟩
  · exact .header hlist (by simp only [List.length_drop] at hlen; omega)
  rcases panic_of_takeInt? h with hlen | ⟨lower, -, h⟩
  · exact .header hlist (by simp only [List.length_drop] at hlen; omega)
  simp only [List.drop_drop] at h hoid hsize
  split_ifs at h with hlower hnegative
  · cases h
  · exact .negative hlist hsize hnegative
  · obtain ⟨n, rfl⟩ := Int.eq_ofNat_of_zero_le (Int.not_lt.1 hnegative)
    exact .elements hlist hoid hsize (panics_of_readElements (hbad oid) h)

end Lists

/-! ## Cells -/

namespace Cell

/-- The reasons for which reading the octets of a cell panics: those of a scalar; too few for a
number of an object or an amount; for a JSON value, a mark in front of it that is not the one that
is known; and those of a list, with the same of its elements. -/
inductive Panics (t : SqlType) (bs : Bytes) : CellForm → Prop
  | scalar {s : Scalar} (h : s.Panics bs) : Panics t bs (.scalar s)
  | oid (hlen : bs.length < 4) : Panics t bs .oid
  | money (hlen : bs.length < 8) : Panics t bs .money
  | mark (ht : t = .plain "JSONB") (hmark : bs.head? ≠ some 1) : Panics t bs .json
  | list {s : Scalar} (h : ListPanics (fun _ => s.Panics) bs) : Panics t bs (.list s)
  | jsonList (h : ListPanics (fun oid cell => oid = versionedOid ∧ cell.head? ≠ some 1) bs) :
    Panics t bs .jsonList

theorem document_ne_panic (bs : Bytes) : document bs ≠ .error .panic := orRefuse_ne_panic

/-- A JSON value panics only if it has to begin with a mark and does not. -/
theorem head?_of_json_eq_panic {versioned : Bool} {bs : Bytes}
    (h : json versioned bs = .error .panic) : versioned = true ∧ bs.head? ≠ some 1 := by
  unfold json at h
  split_ifs at h with hversioned
  · refine ⟨hversioned, fun hmark => ?_⟩
    obtain ⟨r, rfl⟩ := List.head?_eq_some_iff.1 hmark
    exact document_ne_panic r h
  · exact absurd h (document_ne_panic bs)

/-- An amount of eight octets has a text. -/
theorem moneyText?_eq_none {bs : Bytes} (h : moneyText? bs = none) : bs.length < 8 := by
  rw [← Scalar.int?_eq_none_iff]
  by_contra hint
  obtain ⟨i, hi⟩ := Option.ne_none_iff_exists'.1 hint
  have hrange := Scalar.natAbs_int?_le hi
  have hparts : ∀ negative, Decimal.ofParts? negative i.natAbs 2 ≠ none := by
    intro negative
    rw [Decimal.ofParts?, dif_pos (by omega)]
    exact Option.some_ne_none _
  rw [moneyText?, hi, Option.bind_some, Option.map_eq_none_iff] at h
  exact hparts _ h

/-- Octets by a form panic for a reason only. -/
theorem panics_of_decode {t : SqlType} {bs : Bytes} {form : CellForm}
    (h : decode t bs form = .error .panic) : Panics t bs form := by
  cases form with
  | scalar s => exact .scalar (Scalar.panics_of_decode (map_eq_error_iff.1 h))
  | oid =>
    have hnone := Option.map_eq_none_iff.1 (orPanic_eq_panic_iff.1 h)
    exact .oid (Scalar.nat?_eq_none_iff.1 hnone)
  | letter => cases h
  | octets => cases h
  | money =>
    have hnone := Option.map_eq_none_iff.1 (orPanic_eq_panic_iff.1 h)
    exact .money (moneyText?_eq_none hnone)
  | timetz => exact absurd h orRefuse_ne_panic
  | interval => exact absurd h orRefuse_ne_panic
  | json =>
    obtain ⟨hversioned, hmark⟩ := head?_of_json_eq_panic h
    exact .mark (of_decide_eq_true hversioned) hmark
  | void => cases h
  | list s =>
    exact .list (panics_of_readList (fun _ _ => Scalar.panics_of_decode) (map_eq_error_iff.1 h))
  | jsonList =>
    refine .jsonList (panics_of_readList (fun oid cell hcell => ?_) (map_eq_error_iff.1 h))
    obtain ⟨hversioned, hmark⟩ := head?_of_json_eq_panic hcell
    exact ⟨beq_iff_eq.1 hversioned, hmark⟩

end Cell

end PgRole.Postgres
