import PgRole.Proofs.Postgres.Lists

/-!
# The range of the integer types

A number that is an integer within the range of an integer type is bound as that integer, by itself
and as an element of a list, whether it is written as an integer or as a float
(`Param.integers_bound`). One is not: -2^63 as a float. A float is taken as an integer only if it is
nearer to zero than 2^63, which leaves out the least integer of 64 bits along with the first beyond
the greatest; written as an integer, -2^63 is bound (`Param.not_integers_bound`).
-/

namespace PgRole

namespace Json

/-- The least integer of 64 bits as a float. -/
def Number.IsLeastFloat (n : Number) : Prop :=
  ∃ x h, n = .float x h ∧ n.toRat = (-2 ^ 63 : Int)

/-- A number that equals an integer gives it, but for the least one as a float. -/
theorem gives_iff {n : Number} {i : Int} (hn : n.toRat = i) :
    (num n).Gives i ↔ ¬ n.IsLeastFloat := by
  constructor
  · rintro ⟨-, hleast⟩ ⟨x, hx, rfl, hvalue⟩
    exact hleast x hx rfl (by exact_mod_cast hn.symm.trans hvalue)
  · intro h
    refine ⟨.number hn, ?_⟩
    rintro x hx ⟨⟩ rfl
    exact h ⟨x, hx, rfl, hn⟩

end Json

namespace Postgres

/-- An integer in range is a value of the type. -/
theorem Scalar.exists_toInt? {s : Scalar} {i : Int} (h : s.InRange i) :
    ∃ v, s.toInt? v = some i := by
  obtain ⟨bits, hbits, hleast, hgreatest⟩ := h
  cases s <;> cases hbits
  · exact ⟨Int16.ofInt i, congrArg some (Int16.toInt_ofInt_of_le hleast hgreatest)⟩
  · exact ⟨Int32.ofInt i, congrArg some (Int32.toInt_ofInt_of_le hleast hgreatest)⟩
  · exact ⟨Int64.ofInt i, congrArg some (Int64.toInt_ofInt_of_le hleast hgreatest)⟩

/-- A number that is no integer of 64 bits is refused as no integer. -/
theorem Scalar.ofJson_eq_mistyped {s : Scalar} (hs : s.bits?.isSome) {n : Json.Number}
    (h : Conversion.int64? n = none) :
    s.ofJson (.num n) = .error (.mistyped (.num n) .integer) := by
  have hinteger : Conversion.integer (.num n) = .error (.mistyped (.num n) .integer) := by
    rw [Conversion.integer, h, Conversion.orFault]
  cases s
  case int2 | int4 | int8 =>
    rw [Scalar.ofJson, Conversion.integerWithin, hinteger]
    rfl
  all_goals cases hs

namespace Param

/-- A value is bound as one of a type, by itself and as an element of a list, whatever the other
elements are. -/
structure BoundAs (name : String) (s : Scalar) (j : Json) (v : s.Value) : Prop where
  alone : ∀ t, t.RestsOn name → ofJson (some t) j = .ok (.scalar s v)
  element : ∀ t, t.RestsOn (name ++ "[]") → ∀ before after p,
    ofJson (some t) (.arr (before ++ j :: after)) = .ok p ↔
      ∃ vs ws, ofJson (some t) (.arr before) = .ok (.list s vs) ∧
        ofJson (some t) (.arr after) = .ok (.list s ws) ∧ p = .list s (vs ++ some v :: ws)

/-- A value is refused, by itself and as an element of any list. -/
structure Refused (name : String) (j : Json) : Prop where
  alone : ∀ t, t.RestsOn name → ofJson (some t) j = .error (.mistyped j .integer)
  element : ∀ t, t.RestsOn (name ++ "[]") → ∀ before after,
    ¬ (ofJson (some t) (.arr (before ++ j :: after))).isOk

variable {name : String} {s : Scalar}

/-- What converts to an element is bound by itself and in lists. -/
theorem boundAs_of_ofJson (he : (name, s) ∈ listTypes) {j : Json} {v : s.Value}
    (hnull : j ≠ .null) (hv : s.ofJson j = .ok v) : BoundAs name s j v := by
  obtain ⟨helement, hscalar, hlist⟩ := listTypes_spec _ he
  have hitem : item s j = .ok (some v) := item_eq_ok_some_iff.2 ⟨hnull, hv⟩
  constructor
  · intro t ht
    rw [ofJson_eq_item ht helement hscalar, hitem]
    rfl
  · intro t ht before after p
    simp only [ofJson_eq_mapM ht hlist]
    constructor
    · intro h
      obtain ⟨us, hus, rfl⟩ := map_eq_ok_iff.1 h
      obtain ⟨vs, ws, hvs, hws, rfl⟩ := (mapM_append_cons_eq_ok_iff hitem).1 hus
      exact ⟨vs, ws, map_eq_ok_iff.2 ⟨vs, hvs, rfl⟩, map_eq_ok_iff.2 ⟨ws, hws, rfl⟩, rfl⟩
    · rintro ⟨vs, ws, hbefore, hafter, rfl⟩
      obtain ⟨_, hvs, ⟨⟩⟩ := map_eq_ok_iff.1 hbefore
      obtain ⟨_, hws, ⟨⟩⟩ := map_eq_ok_iff.1 hafter
      exact map_eq_ok_iff.2 ⟨_, (mapM_append_cons_eq_ok_iff hitem).2 ⟨vs, ws, hvs, hws, rfl⟩, rfl⟩

/-- What does not is refused by itself and in lists. -/
theorem refused_of_ofJson (he : (name, s) ∈ listTypes) {j : Json} (hnull : j.isNull = false)
    (hv : s.ofJson j = .error (.mistyped j .integer)) : Refused name j := by
  obtain ⟨helement, hscalar, hlist⟩ := listTypes_spec _ he
  have hitem : item s j = .error (.mistyped j .integer) := by
    rw [item, hnull, hv]
    rfl
  constructor
  · intro t ht
    rw [ofJson_eq_item ht helement hscalar, hitem]
    rfl
  · intro t ht before after h
    obtain ⟨p, hp⟩ := isOk_iff.1 h
    rw [ofJson_eq_mapM ht hlist] at hp
    obtain ⟨us, hus, -⟩ := map_eq_ok_iff.1 hp
    have hj := isOk_mapM_iff.1 (isOk_iff.2 ⟨us, hus⟩) j (by simp)
    rw [hitem] at hj
    cases hj

theorem mem_listTypes : ∀ e ∈ integerTypes, e ∈ listTypes := by
  decide

/-- A number that equals an integer in range is bound as this integer. -/
theorem exists_boundAs {e : String × Scalar} (he : e ∈ integerTypes) {n : Json.Number} {i : Int}
    (hn : n.toRat = i) (hi : e.2.InRange i) (hleast : ¬ n.IsLeastFloat) :
    ∃ v, e.2.toInt? v = some i ∧ BoundAs e.1 e.2 (.num n) v := by
  obtain ⟨hbits, -⟩ := integerTypes_spec e he
  obtain ⟨v, hv⟩ := Scalar.exists_toInt? hi
  have hkeeps : e.2.Keeps (.num n) v := ⟨i, hv, (Json.gives_iff hn).2 hleast, hi⟩
  exact ⟨v, hv, boundAs_of_ofJson (mem_listTypes e he) hkeeps.ne_null
    ((Scalar.ofJson_eq_ok_iff hbits).2 hkeeps)⟩

/-- The least integer of 64 bits as a float is refused by every integer type. -/
theorem refused_of_isLeastFloat {e : String × Scalar} (he : e ∈ integerTypes) {n : Json.Number}
    (hleast : n.IsLeastFloat) : Refused e.1 (.num n) := by
  obtain ⟨hbits, -⟩ := integerTypes_spec e he
  have hnone : Conversion.int64? n = none := by
    rw [Option.eq_none_iff_forall_ne_some]
    intro k hk
    obtain ⟨hgives, -⟩ := Conversion.int64?_eq_some_iff.1 hk
    cases hgives.1 with
    | number hvalue => exact (Json.gives_iff hvalue).1 hgives hleast
  exact refused_of_ofJson (mem_listTypes e he) rfl (Scalar.ofJson_eq_mistyped hbits hnone)

/-- A number that is an integer of the type's range is bound as that integer, unless it is -2^63 as
a float, which is refused. -/
theorem integers_bound {e : String × Scalar} (he : e ∈ integerTypes) {n : Json.Number} {i : Int}
    (hn : n.toRat = i) (hi : e.2.InRange i) :
    (¬ n.IsLeastFloat → ∃ v, e.2.toInt? v = some i ∧ BoundAs e.1 e.2 (.num n) v) ∧
      (n.IsLeastFloat → Refused e.1 (.num n)) :=
  ⟨exists_boundAs he hn hi, refused_of_isLeastFloat he⟩

/-- The least integer of 16 bits, as a float. -/
theorem integers_bound_least :
    let x : Binary64 := .ofBits 0xc0e0000000000000
    let n : Json.Number := .float x (by decide)
    n.toRat = (-2 ^ 15 : Int) ∧ Scalar.int2.InRange (-2 ^ 15) ∧
      ofJson (some (.plain "INT2")) (.num n) = .ok (.scalar .int2 (-32768 : Int16)) := by
  intro x n
  have hint : x.toInt? = some (-2 ^ 15) := by decide
  have hvalue : n.toRat = (-2 ^ 15 : Int) := (Binary.toInt?_eq_some_iff.1 hint).2
  have hrange : Scalar.int2.InRange (-2 ^ 15) := ⟨16, rfl, by decide, by decide⟩
  have hleast : ¬ n.IsLeastFloat := by
    rintro ⟨-, -, -, h⟩
    exact absurd (Rat.intCast_inj.1 (hvalue.symm.trans h)) (by decide)
  obtain ⟨v, hv, hbound⟩ :=
    (integers_bound (e := ("INT2", .int2)) (by decide) hvalue hrange).1 hleast
  have hv : v = (-32768 : Int16) := Int16.toInt_inj.1 (Option.some.inj hv)
  exact ⟨hvalue, hrange, hv ▸ hbound.alone _ .plain⟩

/-- The least integer of 64 bits is refused as a float, by itself and in a list, and bound as an
integer. -/
theorem not_integers_bound :
    let x : Binary64 := .ofBits 0xc3e0000000000000
    let n : Json.Number := .float x (by decide)
    let k : Json.Number := .int (-2 ^ 63) (by decide)
    (n.toRat = (-2 ^ 63 : Int) ∧ Scalar.int8.InRange (-2 ^ 63)) ∧
      ofJson (some (.plain "INT8")) (.num n) = .error (.mistyped (.num n) .integer) ∧
      ¬ (ofJson (some (.plain "INT8[]")) (.arr [.num n])).isOk ∧
      ∃ v, Scalar.int8.toInt? v = some (-2 ^ 63) ∧ BoundAs "INT8" .int8 (.num k) v := by
  intro x n k
  have hint : x.toInt? = some (-2 ^ 63) := by decide
  have hvalue : n.toRat = (-2 ^ 63 : Int) := (Binary.toInt?_eq_some_iff.1 hint).2
  have hrange : Scalar.int8.InRange (-2 ^ 63) := ⟨64, rfl, by decide, by decide⟩
  have he : ("INT8", Scalar.int8) ∈ integerTypes := by decide
  have hrefused : Refused "INT8" (.num n) := refused_of_isLeastFloat he ⟨x, _, rfl, hvalue⟩
  have hk : ¬ k.IsLeastFloat := fun ⟨_, _, h, _⟩ => Json.Number.noConfusion h
  exact ⟨⟨hvalue, hrange⟩, hrefused.alone _ .plain, hrefused.element _ .plain [] [],
    exists_boundAs he rfl hrange hk⟩

end Param

end Postgres

end PgRole
