import PgRole.Proofs.Float.Nearest
import PgRole.Proofs.Postgres.Integers

/-!
# Values bound by their own type

A value is bound by its own type where the server's has no case for it (`SqlType.NoCase`), and such
a value is always bound. What the parameter holds is the value (`Param.Holds`): one scalar, or a
list of as many scalars in the same order, or the whole of it as JSON, but no number and no list of
numbers as JSON.

A number that is bound as an integer is that integer, and every signed integer of 64 bits is, by
itself and among its like. One that is bound as a float is a nearest float to the number, and so the
number itself wherever a float has its value: for every float and every integer up to 2^53
(`Param.untyped_holds`). An integer beyond is rounded if it is not a signed one of 64 bits, or has
a number beside it in a list that is none (`Param.not_untyped_exact`).
-/

namespace PgRole

namespace Json.Number

/-- A number that a float equals. -/
def IsDouble (n : Number) : Prop := ∃ x : Binary64, x.isFinite ∧ x.toRat = n.toRat

/-- Every number up to 2^53 is a float. -/
theorem isDouble_of_abs_le {n : Number} (h : |n.toRat| ≤ 2 ^ 53) : n.IsDouble := by
  cases n with
  | int i hi =>
    have hlength : i.natAbs ≤ 2 ^ 53 := by
      have habs : ((i.natAbs : Nat) : Rat) = |(i : Rat)| := by rw [Nat.cast_natAbs, Int.cast_abs]
      have hle : ((i.natAbs : Nat) : Rat) ≤ (2 ^ 53 : Nat) := by
        rw [habs]
        push_cast
        exact h
      exact_mod_cast hle
    exact Binary.exists_toRat_eq hlength
  | float x hx => exact ⟨x, hx, rfl⟩

/-- The float of a number is a nearest one. -/
theorem isNearest_toFloat (n : Number) : n.toFloat.IsNearest n.toRat := by
  cases n with
  | int i hi =>
    have hi : i.natAbs < 2 ^ 64 := by
      unfold minInt maxInt at hi
      omega
    exact Binary.isNearest_ofInt hi
  | float x hx => exact Binary.isNearest_toRat hx

/-- An integer of 64 bits is kept exactly. -/
theorem toRat_of_toInt64? {n : Number} {v : Int64} (h : n.toInt64? = some v) :
    n.toRat = v.toInt := by
  cases n with
  | int i hi =>
    rw [toInt64?] at h
    split at h
    · obtain rfl := Option.some.inj h
      rw [toRat, Int64.toInt_ofInt_of_le hi.1 ‹_›]
    · cases h
  | float x hx => cases h

end Json.Number

/-- A number that is no signed integer of 64 bits, or a list that is not all such integers. -/
def Json.IsBeyondInt64 : Json → Prop
  | .num n => n.toInt64? = none
  | .arr js => ¬ js.all fun j => (j.num?.bind Number.toInt64?).isSome
  | _ => False

/-- A number, or a list of numbers. -/
def Json.IsNumeric : Json → Prop
  | .num _ => True
  | .arr js => js.all fun j => j.num?.isSome
  | _ => False

namespace Postgres

/-- A type without a case for a value: one that is not resolved, one whose name stands for nothing,
a list type whose elements' name stands for nothing, if the value is a list, and a domain with a
name of its own over such a type. -/
inductive SqlType.NoCase (j : Json) : SqlType → Prop
  | unresolved {t : SqlType} (h : t.name = "?") : NoCase j t
  | unknown {name : String} (h : Param.byName? name = none) : NoCase j (.plain name)
  | list {t : SqlType} {element : String} (h : t.name = element ++ "[]")
    (helement : Scalar.ofElementName? element = none) (hlist : j.arr?.isSome) : NoCase j t
  | domain {own : String} {base : SqlType} (hown : Param.byName? own = none)
    (hbase : NoCase j base) : NoCase j (.domain own base)

/-- A value of a type that a value is bound by on its own is that value; a float is a nearest one,
and the number if a float can be. -/
def Scalar.Holds : (s : Scalar) → s.Value → Json → Prop
  | .bool, b, j => j = .bool b
  | .int8, v, .num n => n.toRat = v.toInt
  | .float8, x, .num n => x.IsNearest n.toRat ∧ (n.IsDouble → x.toRat = n.toRat)
  | .text, s, j => j = .str s
  | _, _, _ => False

namespace Param

/-- A parameter holds a value: as one scalar, or as a list of the elements in their order, where
floats are for what signed integers of 64 bits are not enough for, or as JSON, unless it is
numeric. -/
def Holds : Param → Json → Prop
  | null, j => j = .null
  | scalar s v, j => s.Holds v j ∧ (s = .float8 → j.IsBeyondInt64)
  | list s vs, j => (∃ js, j = .arr js ∧ List.Forall₂ (fun j v => ∃ w ∈ v, s.Holds w j) js vs) ∧
    (s = .float8 → j.IsBeyondInt64)
  | json j', j => j' = j ∧ ¬ j.IsNumeric
  | _, _ => False

theorem holds_toFloat (n : Json.Number) : Scalar.float8.Holds n.toFloat (.num n) := by
  have hnearest := n.isNearest_toFloat
  exact ⟨hnearest, fun ⟨_, hx, hvalue⟩ => hnearest.toRat_eq hx hvalue⟩

/-- A list with a value for each element. -/
theorem holds_list {s : Scalar} {js : List Json} {value? : Json → Option s.Value}
    (hall : js.all fun j => (value? j).isSome)
    (hvalue : ∀ {j v}, value? j = some v → s.Holds v j)
    (hfloat : s = .float8 → (Json.arr js).IsBeyondInt64) :
    (list s (js.map value?)).Holds (.arr js) := by
  refine ⟨⟨js, rfl, ?_⟩, hfloat⟩
  rw [List.forall₂_map_right_iff, List.forall₂_same]
  intro j hj
  obtain ⟨v, hv⟩ := Option.isSome_iff_exists.1 (List.all_eq_true.1 hall j hj)
  exact ⟨v, hv, hvalue hv⟩

/-- A list without a type of its own holds its numbers, exactly if all are integers of 64 bits. -/
theorem holds_naturalList (js : List Json) : (naturalList js).Holds (.arr js) := by
  unfold naturalList
  split
  · refine holds_list ‹_› (fun {j v} h => ?_) fun h => by cases h
    cases j <;> cases h
    rfl
  split
  · refine holds_list ‹_› (fun {j v} h => ?_) fun h => by cases h
    cases j <;> cases h
    rfl
  split
  · refine holds_list ‹_› (fun {j v} h => ?_) fun h => by cases h
    obtain ⟨n, hn, hv⟩ := Option.bind_eq_some_iff.1 h
    cases j <;> cases hn
    exact Json.Number.toRat_of_toInt64? hv
  rename_i hbeyond
  split
  · refine holds_list (by simpa only [Option.isSome_map]) (fun {j v} h => ?_) fun _ => hbeyond
    obtain ⟨n, hn, rfl⟩ := Option.map_eq_some_iff.1 h
    cases j <;> cases hn
    exact holds_toFloat n
  · exact ⟨rfl, ‹_›⟩

/-- A value without a type of its own holds its numbers. -/
theorem holds_natural (j : Json) : (natural j).Holds j := by
  have hother {s : Scalar} (hs : s ≠ .float8) : s = .float8 → j.IsBeyondInt64 :=
    fun h => absurd h hs
  cases j with
  | null => rfl
  | bool b => exact ⟨rfl, hother (by decide)⟩
  | num n =>
    rw [natural]
    split
    · exact ⟨Json.Number.toRat_of_toInt64? ‹_›, hother (by decide)⟩
    · exact ⟨holds_toFloat n, fun _ => ‹_›⟩
  | str s => exact ⟨rfl, hother (by decide)⟩
  | arr js => exact holds_naturalList js
  | obj fields => exact ⟨rfl, id⟩

theorem ofType_of_name {t : SqlType} {conversion : Json → Conversion.Result Param}
    (h : byName? t.name = some conversion) (j : Json) : ofType t j = conversion j := by
  cases t <;> rw [SqlType.name] at h <;> rw [ofType, h, Option.getD_some]

/-- A type without a case for a value leaves the value to itself. -/
theorem ofType_of_noCase {t : SqlType} {j : Json} (h : t.NoCase j) :
    ofType t j = .ok (natural j) := by
  induction h with
  | unresolved h => rw [ofType_of_name (h ▸ rfl : byName? _ = some fun j => .ok (natural j))]
  | unknown h => rw [ofType, h, Option.getD_none]
  | list h helement hlist =>
    rw [ofType_of_name (h ▸ byName?_list _)]
    obtain ⟨js, hjs⟩ := Option.isSome_iff_exists.1 hlist
    cases j <;> cases hjs
    unfold listOf
    dsimp only
    rw [helement]
  | domain hown _ ih => rw [ofType, hown, Option.getD_none, ih]

/-- A value is bound by its own type where there is no type, or none with a case for it. -/
theorem ofJson_of_noCase {t : Option SqlType} {j : Json} (h : ∀ s ∈ t, s.NoCase j) :
    ofJson t j = .ok (natural j) := by
  cases j with
  | null => rfl
  | _ =>
    cases t with
    | none => rfl
    | some s => exact ofType_of_noCase (h s rfl)

/-- Without a type that has a case for it, a value is bound, and the parameter holds it: integers
exactly, and floats as near as a float can be, which is exactly for every float and for every
integer up to 2^53. -/
theorem untyped_holds {t : Option SqlType} {j : Json} (h : ∀ s ∈ t, s.NoCase j) :
    (∃ p, ofJson t j = .ok p ∧ p.Holds j) ∧ (∀ x hx, (Json.Number.float x hx).IsDouble) ∧
      ∀ n : Json.Number, |n.toRat| ≤ 2 ^ 53 → n.IsDouble :=
  ⟨⟨natural j, ofJson_of_noCase h, holds_natural j⟩, fun x hx => ⟨x, hx, rfl⟩,
    fun _ => Json.Number.isDouble_of_abs_le⟩

/-- An integer beside a float, for a domain over a list of points. -/
theorem untyped_holds_mixed :
    let t : SqlType := .domain "corners" (.plain "POINT[]")
    let x : Binary64 := .ofBits 0xc00c000000000000
    let j : Json := .arr [.num (.int (-2) (by decide)), .num (.float x (by decide))]
    let p : Param := .list .float8 [some (.ofBits 0xc000000000000000), some x]
    t.NoCase j ∧ ofJson (some t) j = .ok p ∧ p.Holds j := by
  intro t x j p
  have ht : t.NoCase j :=
    .domain (byName?_eq_none (by decide)) (.list (rfl : _ = "POINT" ++ "[]") (by decide) rfl)
  have htwo : (Binary.ofInt (-2) : Binary64) = .ofBits 0xc000000000000000 := by decide +kernel
  have hp : ofJson (some t) j = .ok p := by
    rw [ofJson_of_noCase (fun s hs => Option.some.inj hs ▸ ht)]
    have hnatural : natural j = .list .float8 [some (Binary.ofInt (-2)), some x] := rfl
    rw [hnatural, htwo]
  obtain ⟨⟨q, hq, hholds⟩, -, -⟩ := untyped_holds (t := some t) fun s hs => Option.some.inj hs ▸ ht
  obtain rfl : p = q := Except.ok.inj (hp.symm.trans hq)
  exact ⟨ht, hp, hholds⟩

/-- The greatest integer of 64 bits, and one of 54 bits beside a float, are rounded. -/
theorem not_untyped_exact :
    let n : Json.Number := .int (2 ^ 64 - 1) (by decide)
    let k : Json.Number := .int (2 ^ 53 + 1) (by decide)
    let x : Binary64 := .ofBits 0x43f0000000000000
    let y : Binary64 := .ofBits 0x4340000000000000
    let half : Binary64 := .ofBits 0x3fe0000000000000
    (ofJson none (.num n) = .ok (.scalar .float8 x) ∧ x.toRat ≠ n.toRat) ∧
      ofJson none (.arr [.num k, .num (.float half (by decide))]) =
        .ok (.list .float8 [some y, some half]) ∧ y.toRat ≠ k.toRat := by
  intro n k x y half
  have hvalue {z : Binary64} {i l : Int} (hz : z.toInt? = some i) (hne : i ≠ l) :
      z.toRat ≠ (l : Rat) := by
    rw [(Binary.toInt?_eq_some_iff.1 hz).2]
    exact_mod_cast hne
  have hx : (Binary.ofInt (2 ^ 64 - 1) : Binary64) = x := by decide +kernel
  have hy : (Binary.ofInt (2 ^ 53 + 1) : Binary64) = y := by decide +kernel
  have hscalar : natural (.num n) = .scalar .float8 (Binary.ofInt (2 ^ 64 - 1)) := rfl
  have hlist : natural (.arr [.num k, .num (.float half (by decide))]) =
      .list .float8 [some (Binary.ofInt (2 ^ 53 + 1)), some half] := rfl
  refine ⟨⟨?_, hvalue (i := 2 ^ 64) (by decide) (by decide)⟩, ?_,
    hvalue (i := 2 ^ 53) (by decide) (by decide)⟩
  · rw [ofJson_of_noCase (fun _ h => by cases h), hscalar, hx]
  · rw [ofJson_of_noCase (fun _ h => by cases h), hlist, hy]

end Param

end Postgres

end PgRole
