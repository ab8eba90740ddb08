import PgRole.Proofs.Json.Text
import PgRole.Result
import PgRole.Sql.Render

/-!
# Statements and outcomes read back

What is written as JSON reads as what it was, whichever of the accepted forms it came from. As a
text it does so too, if its floats are read back from their text and it is not nested too deep; what
came from a text is not.

* `Statement.reads_back`: statements and outcomes, as JSON values and as JSON texts.
-/

namespace PgRole

namespace Json

variable {α : Type} {d : Nat} {j v : Json}

/-- A list that was written is read back if its elements are. -/
theorem listOf?_map {read : Json → Option α} {write : α → Json}
    (h : ∀ a, read (write a) = some a) (l : List α) :
    listOf? read (.arr (l.map write)) = some l := by
  show (l.map write).mapM read = some l
  induction l with
  | nil => rfl
  | cons a l ih => simp [h, ih]

theorem listOf?_strings (l : List String) : listOf? str? (strings l) = some l := by
  have hread (s : String) : str? (.str s) = some s := rfl
  exact listOf?_map hread l

/-- The value of a field is nested no deeper than the fields. -/
theorem nested_of_get? {name : String} {fields : List (String × Json)}
    (hn : ∀ f ∈ fields, f.2.Nested d) (h : Entries.get? name fields = some v) : v.Nested d := by
  induction fields with
  | nil => cases h
  | cons f fields ih =>
    obtain ⟨hf, hn⟩ := List.forall_mem_cons.1 hn
    rw [Entries.get?] at h
    split_ifs at h
    · cases h
      exact hf
    · exact ih hn h

/-- A field of a record is nested less deep than the record. -/
theorem Shape.nested_field? {s : Shape} {count : Nat} (hj : j.Nested (d + 1))
    (hs : Shape.of? count j = some s) {name : String} {place : Nat}
    (h : s.field? name place = some v) : v.Nested d := by
  cases hj with
  | arr hitems =>
    unfold Shape.of? at hs
    dsimp only at hs
    split_ifs at hs
    cases hs
    exact hitems v (List.mem_of_getElem? h)
  | obj _ hfields =>
    cases hs
    exact nested_of_get? hfields h
  | _ => cases hs

/-- What was read from a list comes from one of its items. -/
theorem exists_of_mem_mapM {read : Json → Option α} {items : List Json} {l : List α} {a : α}
    (h : items.mapM read = some l) (ha : a ∈ l) : ∃ i ∈ items, read i = some a := by
  induction items generalizing l with
  | nil =>
    cases h
    cases ha
  | cons i items ih =>
    simp only [List.mapM_cons, bind, Option.bind_eq_some_iff, pure, Option.some.injEq] at h
    obtain ⟨b, hb, l, hl, rfl⟩ := h
    rcases List.mem_cons.1 ha with rfl | ha
    · exact ⟨i, List.mem_cons_self, hb⟩
    · obtain ⟨i', hi', hread⟩ := ih hl ha
      exact ⟨i', List.mem_cons_of_mem i hi', hread⟩

/-- A list whose items are read and written again is nested no deeper. -/
theorem nested_listOf? {read : Json → Option α} {write : α → Json} {l : List α}
    (hj : j.Nested (d + 1)) (h : listOf? read j = some l)
    (hread : ∀ i a, i.Nested d → read i = some a → (write a).Nested d) :
    (arr (l.map write)).Nested (d + 1) := by
  cases hj with
  | arr hitems =>
    refine .arr fun w hw => ?_
    obtain ⟨a, ha, rfl⟩ := List.mem_map.1 hw
    obtain ⟨i, hi, hia⟩ := exists_of_mem_mapM h ha
    exact hread i a (hitems i hi) hia
  | _ => cases h

/-- An object of values that are nested less deep, under names in order. -/
theorem nested_obj {fields : List (String × Json)} (names : List String)
    (hnames : fields.map (·.1) = names) (hs : names.Pairwise (· < ·))
    (h : ∀ f ∈ fields, f.2.Nested d) : (obj fields).Nested (d + 1) :=
  .obj (Entries.sorted_iff_keys.2 (hnames ▸ hs)) h

theorem nested_strings (l : List String) : (strings l).Nested (d + 1) := by
  refine .arr fun j hj => ?_
  obtain ⟨s, -, rfl⟩ := List.mem_map.1 hj
  exact .str d s

end Json

/-! ## Words -/

theorem Operator.ofJson?_toJson (o : Operator) : ofJson? o.toJson = some o := by
  cases o <;> rfl

theorem Join.ofJson?_toJson (j : Join) : ofJson? j.toJson = some j := by
  cases j <;> rfl

theorem Fetch.ofJson?_toJson (m : Fetch) : ofJson? m.toJson = some m := by
  cases m <;> rfl

/-! ## Parts of statements -/

theorem Fields.ofJson?_toJson (f : Fields) : ofJson? f.toJson = some f := by
  cases f with
  | all => rfl
  | columns names =>
    show (Json.listOf? Json.str? (Json.strings names)).map Fields.columns = _
    rw [Json.listOf?_strings]
    rfl
  | raw e => rfl

theorem Assignment.ofJson?_toJson (a : Assignment) : ofJson? a.toJson = some a := rfl

theorem Condition.ofJson?_toJson (c : Condition) : ofJson? c.toJson = some c := by
  obtain ⟨f, v, o⟩ := c
  show ((Operator.ofJson? o.toJson).bind fun o => some (⟨f, v, o⟩ : Condition)) = _
  rw [Operator.ofJson?_toJson, Option.bind_some]

namespace Statement

/-- A statement is read back from its form as a value. -/
theorem ofJson?_toJson (s : Statement) : ofJson? s.toJson = some s := by
  have hsets (sets : List Assignment) :
      Json.listOf? Assignment.ofJson? (setsJson sets) = some sets :=
    Json.listOf?_map Assignment.ofJson?_toJson sets
  have hwheres (ws : List Condition) :
      Json.listOf? Condition.ofJson? (wheresJson ws) = some ws :=
    Json.listOf?_map Condition.ofJson?_toJson ws
  cases s with
  | insert t sets =>
    simp [ofJson?, toJson, tagged?, ofFields?, Json.Shape.of?, Json.Shape.required,
      Json.Shape.field?, Entries.get?, Json.str?, hsets]
  | select t f ws j m =>
    simp [ofJson?, toJson, tagged?, ofFields?, Json.Shape.of?, Json.Shape.required,
      Json.Shape.field?, Json.Shape.withDefault, Entries.get?, Json.str?, hwheres,
      f.ofJson?_toJson, j.ofJson?_toJson, m.ofJson?_toJson]
  | update t sets ws j =>
    simp [ofJson?, toJson, tagged?, ofFields?, Json.Shape.of?, Json.Shape.required,
      Json.Shape.field?, Json.Shape.withDefault, Entries.get?, Json.str?, hsets, hwheres,
      j.ofJson?_toJson]
  | delete t ws j =>
    simp [ofJson?, toJson, tagged?, ofFields?, Json.Shape.of?, Json.Shape.required,
      Json.Shape.field?, Json.Shape.withDefault, Entries.get?, Json.str?, hwheres,
      j.ofJson?_toJson]

end Statement

/-! ## Outcomes -/

theorem Record.ofJson?_toJson (r : Record) : ofJson? r.toJson = some r := by
  simp [ofJson?, toJson, Json.Shape.of?, Json.Shape.required, Json.Shape.field?, Entries.get?,
    Json.listOf?_strings, Json.arr?]

theorem RowSet.ofJson?_toJson (s : RowSet) : ofJson? s.toJson = some s := by
  have hrow (row : List Json) : Json.arr? (.arr row) = some row := rfl
  simp [ofJson?, toJson, Json.Shape.of?, Json.Shape.required, Json.Shape.field?, Entries.get?,
    Json.listOf?_strings, Json.listOf?_map hrow]

/-- So is an outcome. -/
theorem Outcome.ofJson?_toJson (o : Outcome) : ofJson? o.toJson = some o := by
  cases o with
  | row r =>
    cases r with
    | none => rfl
    | some r =>
      show (Record.ofJson? r.toJson).map _ = _
      rw [r.ofJson?_toJson]
      rfl
  | rows s =>
    show (RowSet.ofJson? s.toJson).map _ = _
    rw [s.ofJson?_toJson]
    rfl
  | affected n =>
    have hread : (Json.Number.ofUInt64 n).toUInt64? = some n := by
      simp [Json.Number.ofUInt64, Json.Number.toUInt64?]
    show (Json.Number.ofUInt64 n).toUInt64?.map _ = _
    rw [hread]
    rfl

/-! ## Nesting of what was read -/

section Nesting

variable {d : Nat} {j : Json}

theorem Fields.nested_toJson (f : Fields) : f.toJson.Nested (d + 2) := by
  cases f with
  | all => exact .str _ _
  | columns names =>
    refine .obj (by simp [Entries.Sorted]) ?_
    simpa using Json.nested_strings names
  | raw e =>
    refine .obj (by simp [Entries.Sorted]) ?_
    simpa using Json.Nested.str _ e

theorem Assignment.nested_toJson {a : Assignment} (hj : j.Nested (d + 1)) (h : ofJson? j = some a) :
    a.toJson.Nested (d + 1) := by
  simp only [ofJson?, Json.Shape.required, bind, Option.bind_eq_some_iff, pure,
    Option.some.injEq] at h
  obtain ⟨s, hs, f, -, v, ⟨v', hv, rfl⟩, rfl⟩ := h
  have hvalue := Json.Shape.nested_field? hj hs hv
  refine Json.nested_obj ["field", "value"] rfl (by decide) ?_
  simpa using ⟨Json.Nested.str d f, hvalue⟩

/-- A condition that was read is written as a value that is nested no deeper. -/
theorem Condition.nested_toJson {c : Condition} (hj : j.Nested (d + 1)) (h : ofJson? j = some c) :
    c.toJson.Nested (d + 1) := by
  simp only [ofJson?, Json.Shape.required, bind, Option.bind_eq_some_iff, pure,
    Option.some.injEq] at h
  obtain ⟨s, hs, f, -, v, ⟨v', hv, rfl⟩, o, -, rfl⟩ := h
  have hvalue := Json.Shape.nested_field? hj hs hv
  refine Json.nested_obj ["field", "operator", "value"] rfl (by decide) ?_
  simpa using ⟨Json.Nested.str d f, Json.Nested.str d o.text, hvalue⟩

/-- Assignments are read from a field of a statement. -/
theorem Statement.nested_setsJson {s : Json.Shape} {count place : Nat} {name : String}
    {sets : List Assignment} (hj : j.Nested (d + 3)) (hs : Json.Shape.of? count j = some s)
    (h : s.required name place (Json.listOf? Assignment.ofJson?) = some sets) :
    (setsJson sets).Nested (d + 2) := by
  obtain ⟨v, hv, hsets⟩ := Option.bind_eq_some_iff.1 h
  exact Json.nested_listOf? (Json.Shape.nested_field? hj hs hv) hsets
    fun i a hi ha => Assignment.nested_toJson hi ha

/-- Conditions are read from a field of a statement, or there are none. -/
theorem Statement.nested_wheresJson {s : Json.Shape} {count place : Nat} {name : String}
    {ws : List Condition} (hj : j.Nested (d + 3)) (hs : Json.Shape.of? count j = some s)
    (h : s.withDefault name place [] (Json.listOf? Condition.ofJson?) = some ws) :
    (wheresJson ws).Nested (d + 2) := by
  unfold Json.Shape.withDefault at h
  cases hv : s.field? name place with
  | none =>
    rw [hv] at h
    cases h
    exact .arr (by simp)
  | some v =>
    rw [hv] at h
    exact Json.nested_listOf? (Json.Shape.nested_field? hj hs hv) h
      fun i c hi hc => Condition.nested_toJson hi hc

/-- What is read from a value is written as one that is nested no deeper. -/
theorem Statement.nested_toJson {s : Statement} (hj : j.Nested (d + 3)) (h : ofJson? j = some s) :
    s.toJson.Nested (d + 3) := by
  obtain ⟨⟨kind, fields⟩, htagged, h⟩ := Option.bind_eq_some_iff.1 h
  replace h : ofFields? kind fields = some s := h
  -- the fields are the object itself, or the list without its tag
  have hfields : fields.Nested (d + 3) := by
    unfold tagged? at htagged
    split at htagged
    · obtain ⟨k, -, heq⟩ := Option.bind_eq_some_iff.1 htagged
      cases heq
      exact hj
    · cases htagged
      cases hj with
      | arr hitems => exact .arr (List.forall_mem_cons.1 hitems).2
    · cases htagged
  unfold ofFields? at h
  split at h
  · simp only [bind, Option.bind_eq_some_iff, pure, Option.some.injEq] at h
    obtain ⟨r, hr, t, -, sets, hsets, rfl⟩ := h
    have hsets := nested_setsJson hfields hr hsets
    refine Json.nested_obj ["kind", "sets", "table"] rfl (by decide) ?_
    simpa using ⟨Json.Nested.str _ _, hsets, Json.Nested.str _ _⟩
  · simp only [bind, Option.bind_eq_some_iff, pure, Option.some.injEq] at h
    obtain ⟨r, hr, t, -, f, -, ws, hws, j, -, m, -, rfl⟩ := h
    have hws := nested_wheresJson hfields hr hws
    refine Json.nested_obj ["fields", "join", "kind", "method", "table", "wheres"] rfl
      (by decide) ?_
    simpa using ⟨f.nested_toJson, Json.Nested.str _ _, Json.Nested.str _ _, Json.Nested.str _ _,
      Json.Nested.str _ _, hws⟩
  · simp only [bind, Option.bind_eq_some_iff, pure, Option.some.injEq] at h
    obtain ⟨r, hr, t, -, sets, hsets, ws, hws, j, -, rfl⟩ := h
    have hsets := nested_setsJson hfields hr hsets
    have hws := nested_wheresJson hfields hr hws
    refine Json.nested_obj ["join", "kind", "sets", "table", "wheres"] rfl (by decide) ?_
    simpa using ⟨Json.Nested.str _ _, Json.Nested.str _ _, hsets, Json.Nested.str _ _, hws⟩
  · simp only [bind, Option.bind_eq_some_iff, pure, Option.some.injEq] at h
    obtain ⟨r, hr, t, -, ws, hws, j, -, rfl⟩ := h
    have hws := nested_wheresJson hfields hr hws
    refine Json.nested_obj ["join", "kind", "table", "wheres"] rfl (by decide) ?_
    simpa using ⟨Json.Nested.str _ _, Json.Nested.str _ _, Json.Nested.str _ _, hws⟩
  · cases h

theorem Record.nested_toJson {r : Record} (hj : j.Nested (d + 2)) (h : ofJson? j = some r) :
    r.toJson.Nested (d + 2) := by
  simp only [ofJson?, Json.Shape.required, bind, Option.bind_eq_some_iff, pure,
    Option.some.injEq] at h
  obtain ⟨s, hs, columns, -, values, ⟨v, hv, hvalues⟩, rfl⟩ := h
  have hnested := Json.Shape.nested_field? hj hs hv
  obtain rfl : v = .arr values := by
    cases v <;> cases hvalues
    rfl
  refine Json.nested_obj ["columns", "values"] rfl (by decide) ?_
  simpa using ⟨Json.nested_strings columns, hnested⟩

/-- So are rows. -/
theorem RowSet.nested_toJson {s : RowSet} (hj : j.Nested (d + 3)) (h : ofJson? j = some s) :
    s.toJson.Nested (d + 3) := by
  simp only [ofJson?, Json.Shape.required, bind, Option.bind_eq_some_iff, pure,
    Option.some.injEq] at h
  obtain ⟨r, hr, columns, -, rows, ⟨v, hv, hrows⟩, rfl⟩ := h
  have hrow : ∀ i row, i.Nested (d + 1) → Json.arr? i = some row →
      (Json.arr row).Nested (d + 1) := by
    intro i row hi hrow
    cases i <;> cases hrow
    exact hi
  have hnested : (Json.arr (rows.map .arr)).Nested (d + 2) :=
    Json.nested_listOf? (Json.Shape.nested_field? hj hr hv) hrows hrow
  refine Json.nested_obj ["columns", "rows"] rfl (by decide) ?_
  simpa using ⟨Json.nested_strings columns, hnested⟩

/-- What is read from a value is written as one that is nested no deeper. -/
theorem Outcome.nested_toJson {o : Outcome} (hj : j.Nested (d + 4)) (h : ofJson? j = some o) :
    o.toJson.Nested (d + 4) := by
  have hmember {name : String} {v : Json} (hj : (Json.obj [(name, v)]).Nested (d + 4)) :
      v.Nested (d + 3) := by
    cases hj with
    | obj _ hfields => simpa using hfields
  have hone {name : String} {v : Json} (hv : v.Nested (d + 3)) :
      (Json.obj [(name, v)]).Nested (d + 4) := .obj (by simp [Entries.Sorted]) (by simpa using hv)
  unfold ofJson? at h
  split at h
  · cases h
    exact hone (.null _)
  · obtain ⟨r, hr, rfl⟩ := Option.map_eq_some_iff.1 h
    exact hone (Record.nested_toJson (hmember hj) hr)
  · obtain ⟨s, hs, rfl⟩ := Option.map_eq_some_iff.1 h
    exact hone (RowSet.nested_toJson (hmember hj) hs)
  · obtain ⟨n, -, rfl⟩ := Option.map_eq_some_iff.1 h
    exact hone (.num _ _)
  · cases h

end Nesting

/-! ## Texts -/

/-- Every float in a value is read back from its text. -/
def Json.FloatsReadBack (j : Json) : Prop :=
  ∀ x hx, Number.float x hx ∈ j.numbers → (Number.float x hx).readsBack

namespace Json

theorem FloatsReadBack.numbers {j : Json} (h : j.FloatsReadBack) :
    ∀ n ∈ j.numbers, n.readsBack := by
  intro n hn
  cases n with
  | int i hi => exact Number.readsBack_int i hi
  | float x hx => exact h x hx hn

theorem floatsReadBack_of_all {j : Json} (h : j.numbers.all Number.readsBack) : j.FloatsReadBack :=
  fun _ _ hn => List.all_eq_true.1 h _ hn

end Json

/-- The statement that a JSON text describes. -/
def Statement.ofText? (t : String) : Option Statement := (Json.ofText? t).bind ofJson?

/-- The outcome that a JSON text describes. -/
def Outcome.ofText? (t : String) : Option Outcome := (Json.ofText? t).bind ofJson?

theorem Statement.ofText?_text {s : Statement} (hs : s.toJson.Nested Json.Document.maxDepth)
    (hfloats : s.toJson.FloatsReadBack) : ofText? s.toJson.text = some s := by
  rw [ofText?, Json.ofText?_text hs hfloats.numbers, Option.bind_some, s.ofJson?_toJson]

theorem Outcome.ofText?_text {o : Outcome} (ho : o.toJson.Nested Json.Document.maxDepth)
    (hfloats : o.toJson.FloatsReadBack) : ofText? o.toJson.text = some o := by
  rw [ofText?, Json.ofText?_text ho hfloats.numbers, Option.bind_some, o.ofJson?_toJson]

/-- Statements and outcomes are read back. As a JSON value each reads as what it was; so a value
that is a statement in any form, written again, is the same statement and renders to the same. As a
JSON text too, if it is nested no deeper than is read and each of its floats is read back from its
own text; what was read from a text is not nested too deep, so that there only floats count. -/
theorem Statement.reads_back :
    (∀ s : Statement, ofJson? s.toJson = some s) ∧
    (∀ j s, ofJson? j = some s →
      ∃ s', ofJson? s.toJson = some s' ∧ s' = s ∧ Sql.render s' = Sql.render s) ∧
    (∀ s : Statement, s.toJson.Nested Json.Document.maxDepth → s.toJson.FloatsReadBack →
      ofText? s.toJson.text = some s) ∧
    (∀ t s, ofText? t = some s → s.toJson.FloatsReadBack →
      ∃ s', ofText? s.toJson.text = some s' ∧ s' = s ∧ Sql.render s' = Sql.render s) ∧
    (∀ o : Outcome, Outcome.ofJson? o.toJson = some o) ∧
    (∀ o : Outcome, o.toJson.Nested Json.Document.maxDepth → o.toJson.FloatsReadBack →
      Outcome.ofText? o.toJson.text = some o) ∧
    ∀ t o, Outcome.ofText? t = some o → o.toJson.FloatsReadBack →
      Outcome.ofText? o.toJson.text = some o := by
  refine ⟨ofJson?_toJson, fun j s _ => ⟨s, s.ofJson?_toJson, rfl, rfl⟩, fun s hs => ofText?_text hs,
    ?_, Outcome.ofJson?_toJson, fun o ho => Outcome.ofText?_text ho, ?_⟩
  · intro t s ht hfloats
    obtain ⟨j, hj, hs⟩ := Option.bind_eq_some_iff.1 ht
    have hnested : s.toJson.Nested (124 + 3) := nested_toJson (Json.nested_of_ofText? hj) hs
    exact ⟨s, ofText?_text hnested hfloats, rfl, rfl⟩
  · intro t o ht hfloats
    obtain ⟨j, hj, ho⟩ := Option.bind_eq_some_iff.1 ht
    have hnested : o.toJson.Nested (123 + 4) :=
      Outcome.nested_toJson (Json.nested_of_ofText? hj) ho
    exact Outcome.ofText?_text hnested hfloats

/-- A selection as a list of its fields with other words for them, and rows of one column. -/
theorem Statement.reads_back_list :
    let t := "[\"select\",\"t\",\x7b\"all\":null\x7d,[[\"f\",[0.5,1e3],\"in\"]],\"OR\",\"fetchall\"]"
    let u := "\x7b\"rows\":[[\"c\"],[[0.25],[-7]]]\x7d"
    (∃ j s, Json.ofText? t = some j ∧ ofJson? j = some s ∧ ofJson? s.toJson = some s ∧
      s.toJson.Nested Json.Document.maxDepth ∧ ofText? s.toJson.text = some s) ∧
    ∃ o, Outcome.ofText? u = some o ∧ o.toJson.Nested Json.Document.maxDepth ∧
      Outcome.ofText? o.toJson.text = some o := by
  intro t u
  obtain ⟨-, hvalue, hwritten, htext, -, houtcome, hrows⟩ := reads_back
  have hs : (ofText? t).any fun s => s.toJson.numbers.all Json.Number.readsBack := by decide +kernel
  have ho : (Outcome.ofText? u).any fun o => o.toJson.numbers.all Json.Number.readsBack := by
    decide +kernel
  obtain ⟨s, ht, hfloats⟩ := (Option.any_eq_true _ _).1 hs
  obtain ⟨o, hu, hfloats'⟩ := (Option.any_eq_true _ _).1 ho
  have hfloats := Json.floatsReadBack_of_all hfloats
  have hfloats' := Json.floatsReadBack_of_all hfloats'
  obtain ⟨j, hj, hjs⟩ := Option.bind_eq_some_iff.1 ht
  obtain ⟨_, hvalue, rfl, -⟩ := hvalue j s hjs
  obtain ⟨_, htext, rfl, -⟩ := htext t _ ht hfloats
  have hrows := hrows u o hu hfloats'
  obtain ⟨j', hj', hs⟩ := Option.bind_eq_some_iff.1 htext
  obtain ⟨k, hk, ho⟩ := Option.bind_eq_some_iff.1 hrows
  have hnested := nested_toJson (d := 124) (Json.nested_of_ofText? hj') hs
  have hnested' := Outcome.nested_toJson (d := 123) (Json.nested_of_ofText? hk) ho
  exact ⟨⟨j, _, hj, hjs, hvalue, hnested, hwritten _ hnested hfloats⟩, o, hu, hnested',
    houtcome o hnested' hfloats'⟩

/-- An insertion of a float whose shortest digits read as its neighbour. -/
def Statement.ofNeighbour : Statement :=
  .insert "t" [⟨"a", .num (.float (.ofBits 0x403f3eca06faea82) (by decide))⟩]

/-- A statement with a float whose text is read as its neighbour is not read back. -/
theorem Statement.not_reads_back : ofText? ofNeighbour.toJson.text ≠ some ofNeighbour := by
  intro h
  have hread : (ofText? ofNeighbour.toJson.text).map (fun s => s.toJson.numbers) =
      some [.float (.ofBits 0x403f3eca06faea83) (by decide)] := by decide +kernel
  rw [h] at hread
  have hne : ofNeighbour.toJson.numbers ≠ [.float (.ofBits 0x403f3eca06faea83) (by decide)] := by
    decide +kernel
  exact hne (Option.some.inj hread)

end PgRole
