import PgRole.Proofs.Postgres.Integers

/-!
# Lists are bound element by element

A list for a list type is bound as its elements are for the element type
(`Param.lists_elementwise`): as a list of as many values, with none for null and only there, and if
an element is refused, with the error of the first that is. The names of types stand in two tables,
one for scalars and one for the elements of lists, and every name of the second has the same type in
the first (`listTypes_spec`).

Padded text is the exception. It stands in both tables under a name that no type is described by,
and so a list of it is bound by its own type, as one that has no case: a list of texts and nulls is
bound as JSON (`Param.not_lists_elementwise`).
-/

namespace PgRole.Postgres

/-- The element types that lists have a case for, by name. -/
def listTypes : List (String × Scalar) := ("BPCHAR", .text) :: elementTypes

theorem listTypes_spec : ∀ e ∈ listTypes, elementName? e.1 = none ∧
    Scalar.ofName? e.1 = some e.2 ∧ Scalar.ofElementName? e.1 = some e.2 := by
  decide

namespace Param

variable {s : Scalar}

/-- An element of a list as a parameter of its own. -/
def ofItem (s : Scalar) : Option s.Value → Param
  | none => null
  | some v => scalar s v

theorem ofItem_injective {v w : Option s.Value} (h : ofItem s v = ofItem s w) : v = w := by
  cases v <;> cases w <;> cases h <;> rfl

/-! ## Conversions of elements and of lists -/

/-- A value for a scalar type is converted as an element of a list is. -/
theorem ofJson_eq_item {name : String} {u : SqlType} (hu : u.RestsOn name)
    (helement : elementName? name = none) (hscalar : Scalar.ofName? name = some s) (j : Json) :
    ofJson (some u) j = ofItem s <$> item s j := by
  by_cases hnull : j.isNull
  · rw [Json.eq_null_of_isNull hnull]
    rfl
  · rw [ofJson_of_isNull (Bool.eq_false_iff.2 hnull),
      ofType_of_restsOn hu (byName?_scalar helement hscalar), item, if_neg hnull]
    cases s.ofJson j <;> rfl

theorem ofJson_eq_mapM {element : String} {t : SqlType} (ht : t.RestsOn (element ++ "[]"))
    (hlist : Scalar.ofElementName? element = some s) (js : List Json) :
    ofJson (some t) (.arr js) = list s <$> js.mapM (item s) := by
  rw [ofJson_of_isNull rfl, ofType_of_restsOn ht (byName?_list element), ← items_eq_mapM]
  unfold listOf
  dsimp only
  rw [hlist]

/-- What is neither a list nor null is refused as no list. -/
theorem ofJson_eq_notList {element : String} {t : SqlType} (ht : t.RestsOn (element ++ "[]"))
    {j : Json} (hnull : j ≠ .null) (hlist : j.arr? = none) :
    ofJson (some t) j = .error (.notList element j) := by
  have hnull : j.isNull = false := by
    cases j with
    | null => exact absurd rfl hnull
    | _ => rfl
  rw [ofJson_of_isNull hnull, ofType_of_restsOn ht (byName?_list element)]
  cases j with
  | arr js => cases hlist
  | _ => rfl

/-- A conversion of lists goes by a conversion of elements. -/
structure Elementwise (s : Scalar) (each : Json → Conversion.Result Param)
    (all : List Json → Conversion.Result Param) : Prop where
  /-- A list is bound as the list of what its elements are bound as, none exactly for null. -/
  ok_iff : ∀ js p, all js = .ok p ↔ ∃ vs, p = list s vs ∧
    List.Forall₂ (fun j v => (v = none ↔ j = .null) ∧ each j = .ok (ofItem s v)) js vs
  /-- It is bound if all its elements but nulls are. -/
  isOk_iff : ∀ js, (all js).isOk ↔ ∀ j ∈ js, j ≠ .null → (each j).isOk
  /-- It is refused with the error of the first element that is refused. -/
  error_iff : ∀ js f, all js = .error f ↔ ∃ before j after, js = before ++ j :: after ∧
    (∀ k ∈ before, (each k).isOk) ∧ each j = .error f

/-- A conversion that goes through the elements of a list one by one binds each as by itself, and
fails with the first that fails. -/
theorem elementwise_mapM {each : Json → Conversion.Result Param}
    {all : List Json → Conversion.Result Param} (heach : ∀ j, each j = ofItem s <$> item s j)
    (hall : ∀ js, all js = list s <$> js.mapM (item s)) : Elementwise s each all := by
  have hok (j : Json) (v : Option s.Value) : each j = .ok (ofItem s v) ↔ item s j = .ok v := by
    rw [heach]
    constructor
    · intro h
      obtain ⟨w, hw, h⟩ := map_eq_ok_iff.1 h
      rwa [← ofItem_injective h]
    · exact fun h => map_eq_ok_iff.2 ⟨v, h, rfl⟩
  have hisOk (j : Json) : (each j).isOk ↔ (item s j).isOk := by
    rw [heach]
    exact isOk_map_iff
  have herror (j : Json) (f : Conversion.Fault) : each j = .error f ↔ item s j = .error f := by
    rw [heach]
    exact map_eq_error_iff
  constructor
  · -- what a list becomes: each element by itself, and the nulls stay in place
    intro js p
    have hitems (vs : List (Option s.Value)) : js.mapM (item s) = .ok vs ↔
        List.Forall₂ (fun j v => (v = none ↔ j = .null) ∧ each j = .ok (ofItem s v)) js vs := by
      rw [mapM_eq_ok_iff]
      refine ⟨List.Forall₂.imp fun j v h => ⟨?_, (hok j v).2 h⟩,
        List.Forall₂.imp fun j v h => (hok j v).1 h.2⟩
      rw [← item_eq_ok_none_iff, h, Except.ok.injEq]
    rw [hall]
    constructor
    · intro h
      obtain ⟨vs, hvs, rfl⟩ := map_eq_ok_iff.1 h
      exact ⟨vs, rfl, (hitems vs).1 hvs⟩
    · rintro ⟨vs, rfl, hvs⟩
      exact map_eq_ok_iff.2 ⟨vs, (hitems vs).2 hvs, rfl⟩
  · -- whether it is one at all: a null is never at fault
    intro js
    have hlist : (all js).isOk ↔ (js.mapM (item s)).isOk := by
      rw [hall]
      exact isOk_map_iff
    rw [hlist, isOk_mapM_iff]
    refine forall₂_congr fun j _ => ?_
    rw [hisOk]
    refine ⟨fun h _ => h, fun h => ?_⟩
    by_cases hnull : j = .null
    · rw [item_eq_ok_none_iff.2 hnull]
      rfl
    · exact h hnull
  · -- why it is not: the fault of the first element that is none
    intro js f
    have hlist : all js = .error f ↔ js.mapM (item s) = .error f := by
      rw [hall]
      exact map_eq_error_iff
    rw [hlist, mapM_eq_error_iff]
    simp only [hisOk, herror, isOk_iff]

/-- Lists are bound element by element, directly and under domains with names of their own, and
what is neither a list nor null is refused. Padded text, which is described by another name than the
one that it has a case for, is the exception: a list of it is bound by its own type. -/
theorem lists_elementwise (t : SqlType) :
    (∀ e ∈ listTypes, t.RestsOn (e.1 ++ "[]") →
      (∀ u, u.RestsOn e.1 →
        Elementwise e.2 (ofJson (some u)) fun js => ofJson (some t) (.arr js)) ∧
      ∀ j, j ≠ .null → j.arr? = none → ofJson (some t) j = .error (.notList e.1 j)) ∧
    (t.RestsOn (Catalog.builtinName "BPCHAR[]") →
      (∀ js, ofJson (some t) (.arr js) = .ok (naturalList js)) ∧
      ∀ j, j ≠ .null → j.arr? = none → ofJson (some t) j = .error (.notList "CHAR" j)) := by
  constructor
  · intro e he ht
    obtain ⟨helement, hscalar, hlist⟩ := listTypes_spec e he
    refine ⟨fun u hu => ?_, fun j => ofJson_eq_notList ht⟩
    exact elementwise_mapM (ofJson_eq_item hu helement hscalar) (ofJson_eq_mapM ht hlist)
  · intro ht
    have ht : t.RestsOn ("CHAR" ++ "[]") := ht
    refine ⟨fun js => ?_, fun j => ofJson_eq_notList ht⟩
    rw [ofJson_of_isNull rfl, ofType_of_restsOn ht (byName?_list "CHAR")]
    rfl

/-- Truth values with a null between them, and with an element that is none, for a domain over a
domain. -/
theorem lists_elementwise_nested :
    let t : SqlType := .domain "answers" (.domain "flags" (.plain "BOOL[]"))
    t.RestsOn "BOOL[]" ∧
      ofJson (some t) (.arr [.bool true, .null, .str "no"]) =
        .ok (.list .bool [some true, none, some false]) ∧
      ofJson (some t) (.arr [.null, .str "maybe", .arr []]) =
        .error (.unreadable "maybe" .boolean) ∧
      ofJson (some t) (.bool true) = .error (.notList "BOOL" (.bool true)) := by
  intro t
  have ht : t.RestsOn ("BOOL" ++ "[]") :=
    .domain (byName?_eq_none (by decide)) (.domain (byName?_eq_none (by decide)) .plain)
  obtain ⟨heach, hrefused⟩ := (lists_elementwise t).1 ("BOOL", .bool) (by decide) ht
  have hlist := heach _ .plain
  refine ⟨ht, (hlist.ok_iff _ _).2 ⟨_, rfl, ?_⟩, (hlist.error_iff _ _).2 ?_, hrefused _ ?_ rfl⟩
  · exact .cons ⟨by simp, rfl⟩ (.cons ⟨by simp, rfl⟩ (.cons ⟨by simp, rfl⟩ .nil))
  · exact ⟨[.null], .str "maybe", [.arr []], rfl, List.forall_mem_singleton.2 rfl, rfl⟩
  · exact Json.noConfusion

/-- A list of a text and a null is bound as JSON for a list of padded text, and the text by itself
as text. -/
theorem not_lists_elementwise :
    let t := Catalog.resolve [] "BPCHAR[]"
    let u := Catalog.resolve [] "BPCHAR"
    let js : List Json := [.str "a", .null]
    ofJson (some u) (.str "a") = .ok (.scalar .text "a") ∧
      ofJson (some t) (.arr js) = .ok (.json (.arr js)) ∧
      ¬ Elementwise .text (ofJson (some u)) fun js => ofJson (some t) (.arr js) := by
  intro t u js
  have hjson : ofJson (some t) (.arr js) = .ok (.json (.arr js)) := rfl
  refine ⟨rfl, hjson, fun h => ?_⟩
  obtain ⟨vs, hvs, -⟩ := (h.ok_iff js _).1 hjson
  cases hvs

end Param

end PgRole.Postgres
