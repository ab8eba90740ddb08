import PgRole.Proofs.Sql.Rendering

/-!
# Which statements have a text

A statement can be rendered exactly if its names can be quoted, it has something to select or to
set, and its membership conditions have lists (`Statement.Renderable`). The checks are made here and
there while the text is written; each writing function has one lemma that says when it gives a text.

* `render_renderable`: a statement that can be rendered has a text in which nothing of it is
  missing, and every other fails with an error of the argument.
-/

namespace PgRole

open Sql

/-- A name that can be quoted: it has a character, and none of them is NUL. -/
def Sql.Quotable (name : List Char) : Prop := name ≠ [] ∧ '\x00' ∉ name

/-- A membership condition has a list, and unless this is empty, the field can be quoted. -/
structure Condition.Renderable (c : Condition) : Prop where
  list : c.operator = .isIn → ∃ items, c.value = .arr items
  field : ¬ (c.operator = .isIn ∧ c.value = .arr []) → Quotable c.field.toList

/-- Something is selected: all columns, some that can be quoted, or an expression that is not
blank. -/
def Fields.Renderable : Fields → Prop
  | all => True
  | columns names => names ≠ [] ∧ ∀ n ∈ names, Quotable n.toList
  | raw expression => ∃ c ∈ expression.toList, Text.isBlank c = false

namespace Statement

/-- Something is selected or set, where a statement selects or sets. -/
def HasSubject : Statement → Prop
  | insert _ sets | update _ sets _ _ => sets ≠ []
  | select _ f _ _ _ => f.Renderable
  | delete .. => True

/-- The statements that can be rendered. -/
structure Renderable (s : Statement) : Prop where
  table : ∀ part ∈ s.table.toList.splitOn '.', Quotable part
  subject : s.HasSubject
  sets : ∀ a ∈ s.sets, Quotable a.field.toList
  wheres : ∀ c ∈ s.wheres, c.Renderable

end Statement

namespace Sql.Render

/-! ## When there is a text -/

theorem isOk_name {s : String} : (name s).isOk ↔ Quotable s.toList := by
  have hname : isName s ↔ Quotable s.toList := by simp [isName, Quotable]
  rw [name, ← hname]
  split <;> simp_all [Except.isOk, Except.toBool]

theorem isOk_table {t : String} :
    (table t).isOk ↔ ∀ part ∈ t.toList.splitOn '.', Quotable part := by
  unfold table
  rw [isOk_bind_of_forall fun _ => rfl, isOk_mapM_iff, dotParts_eq_splitOn]
  simp only [isOk_name, String.toList_ofList]

/-- A condition has a text just if its name is one and its operator takes its value. -/
theorem isOk_condition {c : Condition} : (condition c).isOk ↔ c.Renderable := by
  obtain ⟨field, value, operator⟩ := c
  by_cases ho : operator = .isIn
  · subst ho
    cases value with
    | arr items =>
      cases items with
      | nil => exact ⟨fun _ => ⟨fun _ => ⟨[], rfl⟩, fun h => absurd ⟨rfl, rfl⟩ h⟩, fun _ => rfl⟩
      | cons j items =>
        have hname : (condition ⟨field, .arr (j :: items), .isIn⟩).isOk ↔ (name field).isOk :=
          isOk_bind_of_forall fun _ => rfl
        rw [hname, isOk_name]
        exact ⟨fun h => ⟨fun _ => ⟨_, rfl⟩, fun _ => h⟩, fun h => h.field (by simp)⟩
    | _ =>
      constructor
      · intro h
        cases h
      · intro h
        obtain ⟨items, hitems⟩ := h.list rfl
        cases hitems
  · have hlist : operator.takesList = false := by simpa [Operator.takesList] using ho
    have hname : (condition ⟨field, value, operator⟩).isOk ↔ (name field).isOk := by
      unfold condition
      rw [if_neg (by simp [hlist])]
      exact isOk_bind_of_forall fun _ => rfl
    rw [hname, isOk_name]
    exact ⟨fun h => ⟨fun h => absurd h ho, fun _ => h⟩, fun h => h.field fun h => ho h.1⟩

theorem isOk_wheres {ws : List Condition} {j : Join} :
    (wheres ws j).isOk ↔ ∀ c ∈ ws, c.Renderable := by
  unfold wheres
  by_cases hw : ws.isEmpty
  · simp [List.isEmpty_iff.1 hw]
  · rw [if_neg hw, isOk_bind_of_forall fun _ => rfl, isOk_mapM_iff]
    simp only [isOk_condition]

/-- Fields have a text just if something is selected and its names can be quoted. -/
theorem isOk_fields {f : Fields} : (fields f).isOk ↔ f.Renderable := by
  cases f with
  | all => simp [fields, Fields.Renderable]
  | columns names =>
    cases names with
    | nil => simp [fields, Fields.Renderable]
    | cons n names =>
      show ((n :: names).mapM name >>= _).isOk ↔ _
      rw [isOk_bind_of_forall fun _ => rfl, isOk_mapM_iff]
      simp [isOk_name, Fields.Renderable]
  | raw expression =>
    have hblank : Text.allBlank expression = false ↔ (Fields.raw expression).Renderable := by
      simp [Text.allBlank, Fields.Renderable]
    rw [← hblank]
    cases h : Text.allBlank expression <;> simp [fields, h]

theorem isOk_assignment {a : Assignment} : (assignment a).isOk ↔ Quotable a.field.toList := by
  rw [← isOk_name]
  exact isOk_bind_of_forall fun _ => rfl

theorem isOk_assignments {sets : List Assignment} :
    (sets.mapM assignment).isOk ↔ ∀ a ∈ sets, Quotable a.field.toList := by
  simp only [isOk_mapM_iff, isOk_assignment]

/-- A statement has a text just if it has a subject and all its parts have texts. -/
theorem isOk_fragments {s : Statement} : (fragments s).isOk ↔ s.Renderable := by
  have hiff : (fragments s).isOk ↔ s.HasSubject ∧
      (∀ part ∈ s.table.toList.splitOn '.', Quotable part) ∧
      (∀ a ∈ s.sets, Quotable a.field.toList) ∧ ∀ c ∈ s.wheres, c.Renderable := by
    -- each part by itself: the parts do not depend on each other
    cases s with
    | select t f ws j m =>
      have h : (fragments (.select t f ws j m)).isOk ↔
          (fields f).isOk ∧ (table t).isOk ∧ (wheres ws j).isOk :=
        isOk_bind_iff fun _ _ => isOk_bind_iff fun _ _ => isOk_bind_of_forall fun _ => rfl
      rw [h, isOk_fields, isOk_table, isOk_wheres]
      simp [Statement.HasSubject, Statement.sets, Statement.wheres, Statement.table]
    | insert t sets =>
      cases sets with
      | nil => simp [fragments, Statement.HasSubject]
      | cons a sets =>
        have h : (fragments (.insert t (a :: sets))).isOk ↔
            (table t).isOk ∧ ((a :: sets).mapM fun a => name a.field).isOk :=
          isOk_bind_iff fun _ _ => isOk_bind_of_forall fun _ => rfl
        rw [h, isOk_table, isOk_mapM_iff]
        simp [isOk_name, Statement.HasSubject, Statement.sets, Statement.wheres, Statement.table]
    | update t sets ws j =>
      cases sets with
      | nil => simp [fragments, Statement.HasSubject]
      | cons a sets =>
        have h : (fragments (.update t (a :: sets) ws j)).isOk ↔
            (table t).isOk ∧ ((a :: sets).mapM assignment).isOk ∧ (wheres ws j).isOk :=
          isOk_bind_iff fun _ _ => isOk_bind_iff fun _ _ => isOk_bind_of_forall fun _ => rfl
        rw [h, isOk_table, isOk_assignments, isOk_wheres]
        simp [Statement.HasSubject, Statement.sets, Statement.wheres, Statement.table]
    | delete t ws j =>
      have h : (fragments (.delete t ws j)).isOk ↔ (table t).isOk ∧ (wheres ws j).isOk :=
        isOk_bind_iff fun _ _ => isOk_bind_of_forall fun _ => rfl
      rw [h, isOk_table, isOk_wheres]
      simp [Statement.HasSubject, Statement.sets, Statement.wheres, Statement.table]
  rw [hiff]
  constructor
  · rintro ⟨hsubject, htable, hsets, hwheres⟩
    exact ⟨htable, hsubject, hsets, hwheres⟩
  · intro h
    exact ⟨h.subject, h.table, h.sets, h.wheres⟩

end Sql.Render

/-! ## What the text has -/

namespace Statement

/-- The text in front of what is split into tokens: an expression is selected as it stands. -/
def leading : Statement → String
  | select _ (.raw expression) _ _ _ => "SELECT " ++ expression
  | insert .. | select .. | update .. | delete .. => ""

/-- The tokens behind that text. -/
def trailing (s : Statement) : List (Token Json) := if s.isRaw then s.tokens.tail else s.tokens

end Statement

namespace Sql

/-- Behind the expression that is selected, a text is read as the rest of the selection. -/
theorem Render.reads_rest {t : String} {ws : List Condition} {j : Join}
    {target filter : List Fragment} (ht : table t = .ok target) (hf : wheres ws j = .ok filter) :
    Fragment.Reads (.text " FROM " :: target ++ filter)
      (.word "FROM" :: Statement.tableTokens t ++ Statement.filterTokens ws j) := by
  simpa using Reads.wheres (Fragment.Reads.nil.glue glue_from (reads_table ht)) hf

/-- An expression that is selected stands between the word in front of it and the rest. -/
theorem Render.fragments_raw {t expression : String} {ws : List Condition} {j : Join} {m : Fetch}
    {fs : List Fragment} (h : fragments (.select t (.raw expression) ws j m) = .ok fs) :
    ∃ target filter, table t = .ok target ∧ wheres ws j = .ok filter ∧
      fs = .text "SELECT " :: .text expression :: (.text " FROM " :: target ++ filter) := by
  obtain ⟨selected, hselected, h⟩ := bind_eq_ok_iff.1 h
  obtain ⟨target, htarget, h⟩ := bind_eq_ok_iff.1 h
  obtain ⟨filter, hfilter, h⟩ := bind_eq_ok_iff.1 h
  cases h
  rw [fields] at hselected
  split at hselected
  · cases hselected
  · cases hselected
    exact ⟨target, filter, htarget, hfilter, rfl⟩

/-- Behind an expression that is selected the rest is read as tokens. -/
theorem reads_raw {t expression : String} {ws : List Condition} {j : Join} {m : Fetch} {b : Bound}
    (h : render (.select t (.raw expression) ws j m) = .ok b) :
    b.args = (Statement.select t (.raw expression) ws j m).values ∧
    ∃ rest, b.sql.toList = ("SELECT " ++ expression).toList ++ rest ∧ tokens? rest =
      some (Token.number 1 (.word "FROM" :: Statement.tableTokens t ++
        Statement.filterTokens ws j)) := by
  rw [render] at h
  obtain ⟨fs, hfs, rfl⟩ := map_eq_ok_iff.1 h
  obtain ⟨target, filter, htarget, hfilter, rfl⟩ := Render.fragments_raw hfs
  have hrest := Render.reads_rest htarget hfilter
  refine ⟨?_, Fragment.sqlFrom 1 (.text " FROM " :: target ++ filter), ?_, hrest.reads 1⟩
  · rw [← Statement.values_tokens]
    exact hrest.values
  · simp [Bound.ofFragments, Fragment.sqlFrom]

/-- The text of a statement is an expression that it selects, if it does that, and what is read as
the tokens behind. -/
theorem reads_trailing {s : Statement} {b : Bound} (h : render s = .ok b) :
    b.args = s.values ∧ ∃ rest, b.sql.toList = s.leading.toList ++ rest ∧
      tokens? rest = some (Token.number 1 s.trailing) := by
  have whole (hraw : s.isRaw = false) (hleading : s.leading = "") : b.args = s.values ∧
      ∃ rest, b.sql.toList = s.leading.toList ++ rest ∧
        tokens? rest = some (Token.number 1 s.trailing) := by
    obtain ⟨htokens, hargs, -⟩ := reads_render hraw h
    refine ⟨hargs, b.sql.toList, by simp [hleading], ?_⟩
    simpa [Statement.trailing, hraw] using htokens
  cases s with
  | select t f ws j m =>
    cases f with
    | raw expression => exact reads_raw h
    | all => exact whole rfl rfl
    | columns names => exact whole rfl rfl
  | insert t sets => exact whole rfl rfl
  | update t sets ws j => exact whole rfl rfl
  | delete t ws j => exact whole rfl rfl

/-- A statement that can be rendered has a text with all its assignments and conditions, whose
values are those of the statement in order; every other fails with an error of the argument. -/
theorem render_renderable (s : Statement) :
    (s.Renderable ∧ ∃ b rest, render s = .ok b ∧ b.args = s.values ∧
      b.sql.toList = s.leading.toList ++ rest ∧
      tokens? rest = some (Token.number 1 s.trailing)) ∨
    (¬ s.Renderable ∧ ∃ f, render s = .error f ∧ f.error.kind = .invalidArgument) := by
  cases h : render s with
  | ok b =>
    left
    obtain ⟨fs, hfs, -⟩ := map_eq_ok_iff.1 h
    obtain ⟨hargs, rest, hsql, hrest⟩ := reads_trailing h
    exact ⟨Render.isOk_fragments.1 (isOk_iff.2 ⟨fs, hfs⟩), b, rest, rfl, hargs, hsql, hrest⟩
  | error f =>
    right
    refine ⟨fun hs => ?_, f, rfl, rfl⟩
    obtain ⟨fs, hfs⟩ := isOk_iff.1 (Render.isOk_fragments.2 hs)
    rw [render, hfs] at h
    cases h

end Sql

end PgRole
