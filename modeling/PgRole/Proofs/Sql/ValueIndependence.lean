import Mathlib.Data.List.Sort
import PgRole.Proofs.Except
import PgRole.Sql.Exists
import PgRole.Sql.Placeholder
import PgRole.Sql.Render

/-!
# Texts do not depend on values

A statement that is prepared twice with different values has one text, or the same error both
times. All that a text shows of a value is how far it is a list, and that only where it is the list
of a membership condition: `Json.extent`.

A function is followed through both preparations at once, by the rules of `SameUpTo`. Fragments
that differ only in their values have one text (`Fragment.sqlFrom_eq_of_alike`).

* `text_independent_of_values`: the three ways to prepare a statement.
-/

namespace PgRole

/-! ## What differs in values only -/

/-- How far a value is a list. -/
inductive Json.Extent where
  | noList
  | empty
  | filled
  deriving DecidableEq, Repr

/-- How far a value is a list. -/
def Json.extent : Json → Extent
  | .arr [] => .empty
  | .arr (_ :: _) => .filled
  | _ => .noList

/-- Assignments of one field. -/
def Assignment.Alike (a a' : Assignment) : Prop := a.field = a'.field

/-- Conditions on one field by one operator, whose values are lists to the same extent where the
operator takes a list. -/
structure Condition.Alike (c c' : Condition) : Prop where
  field : c.field = c'.field
  operator : c.operator = c'.operator
  extent : c.operator.takesList → c.value.extent = c'.value.extent

/-- Statements that differ only in the values of their assignments and conditions. -/
inductive Statement.Alike : Statement → Statement → Prop where
  | insert (t : String) {sets sets' : List Assignment}
      (hs : List.Forall₂ Assignment.Alike sets sets') :
      Statement.Alike (.insert t sets) (.insert t sets')
  | select (t : String) (f : Fields) (j : Join) (m : Fetch) {ws ws' : List Condition}
      (hw : List.Forall₂ Condition.Alike ws ws') :
      Statement.Alike (.select t f ws j m) (.select t f ws' j m)
  | update (t : String) (j : Join) {sets sets' : List Assignment} {ws ws' : List Condition}
      (hs : List.Forall₂ Assignment.Alike sets sets')
      (hw : List.Forall₂ Condition.Alike ws ws') :
      Statement.Alike (.update t sets ws j) (.update t sets' ws' j)
  | delete (t : String) (j : Join) {ws ws' : List Condition}
      (hw : List.Forall₂ Condition.Alike ws ws') :
      Statement.Alike (.delete t ws j) (.delete t ws' j)

/-- Conditions on one column with as many values. -/
structure ExistsCondition.Alike (c c' : ExistsCondition) : Prop where
  column : c.column = c'.column
  count : c.values.length = c'.values.length

namespace Sql

/-! ## Fragments -/

namespace Fragment

/-- Fragments that are the same, or both values. -/
inductive Alike : Fragment → Fragment → Prop where
  | text (s : String) : Alike (.text s) (.text s)
  | name (s : String) : Alike (.name s) (.name s)
  | value (j j' : Json) : Alike (.value j) (.value j')

theorem Alike.refl : ∀ f : Fragment, f.Alike f
  | .text s => .text s
  | .name s => .name s
  | .value j => .value j j

/-- Lists of fragments that differ in their values only. -/
abbrev AllAlike : List Fragment → List Fragment → Prop := List.Forall₂ Alike

theorem AllAlike.refl (fs : List Fragment) : AllAlike fs fs :=
  List.forall₂_same.2 fun f _ => .refl f

theorem AllAlike.append {fs fs' gs gs' : List Fragment} (hf : AllAlike fs fs')
    (hg : AllAlike gs gs') : AllAlike (fs ++ gs) (fs' ++ gs') := List.rel_append hf hg

/-- Parts that are alike are joined alike. -/
theorem AllAlike.joined (separator : String) {l l' : List (List Fragment)}
    (h : List.Forall₂ AllAlike l l') : AllAlike (joined separator l) (joined separator l') := by
  induction h with
  | nil => exact .nil
  | cons hf hl ih =>
    cases hl with
    | nil => exact hf
    | cons _ _ => exact hf.append (.cons (.text separator) ih)

/-- A text shows no value. -/
theorem sqlFrom_eq_of_alike {fs fs' : List Fragment} (h : AllAlike fs fs') (k : Nat) :
    sqlFrom k fs = sqlFrom k fs' := by
  induction h generalizing k with
  | nil => rfl
  | cons h _ ih => cases h <;> simp only [sqlFrom, ih]

end Fragment

open Fragment (AllAlike)

/-- Fragments alike, or the same error, are the same text or error. -/
theorem Bound.sql_eq_of_alike {ε : Type} {x y : Except ε (List Fragment)}
    (h : SameUpTo AllAlike x y) :
    (x.map ofFragments).map sql = (y.map ofFragments).map sql := by
  have hmap : x.map (sql ∘ ofFragments) = y.map (sql ∘ ofFragments) :=
    h.map_eq fun fs fs' hfs => congrArg String.ofList (Fragment.sqlFrom_eq_of_alike hfs 1)
  cases h <;> exact hmap

/-! ## Statements -/

namespace Render

theorem alike_name {n n' : String} (h : n = n') : SameUpTo AllAlike (name n) (name n') :=
  .of_eq .refl (congrArg name h)

/-- A membership condition looks at how far its value is a list, and at nothing else of it. -/
theorem condition_of_takesList {c : Condition} (h : c.operator.takesList) : condition c =
    match c.value.extent with
    | .empty => pure [.text "FALSE"]
    | .filled => do
      let n ← name c.field
      pure (n ++ [.text " = ANY(", .value c.value, .text ")"])
    | .noList => throw (.notAList c.operator c.field) := by
  unfold condition
  rw [if_pos h]
  cases c.value with
  | arr items => cases items <;> rfl
  | _ => rfl

theorem alike_condition {c c' : Condition} (h : c.Alike c') :
    SameUpTo AllAlike (condition c) (condition c') := by
  obtain ⟨f, v, o⟩ := c
  obtain ⟨f', v', o'⟩ := c'
  obtain ⟨rfl, rfl, hextent⟩ := h
  dsimp only at hextent
  by_cases ho : o.takesList
  · rw [condition_of_takesList ho, condition_of_takesList ho, hextent ho]
    cases v'.extent with
    | noList => exact .error _
    | empty => exact .ok (AllAlike.refl _)
    | filled =>
      refine (alike_name rfl).bind fun n n' hn => .ok (hn.append ?_)
      exact .cons (.text _) (.cons (.value v v') (.cons (.text _) .nil))
  · unfold condition
    rw [if_neg ho, if_neg ho]
    refine (alike_name rfl).bind fun n n' hn => .ok (hn.append ?_)
    exact .cons (.text _) (.cons (.value v v') .nil)

theorem alike_wheres {ws ws' : List Condition} (j : Join)
    (h : List.Forall₂ Condition.Alike ws ws') : SameUpTo AllAlike (wheres ws j) (wheres ws' j) := by
  have hconditions : SameUpTo (List.Forall₂ AllAlike) (ws.mapM condition) (ws'.mapM condition) :=
    .mapM h fun _ _ => alike_condition
  cases h with
  | nil => exact .ok .nil
  | cons _ _ =>
    exact hconditions.bind fun _ _ hc => .ok (.cons (.text _) (AllAlike.joined _ hc))

theorem alike_assignment {a a' : Assignment} (h : a.Alike a') :
    SameUpTo AllAlike (assignment a) (assignment a') :=
  (alike_name h).bind fun _ _ hn => .ok (hn.append (.cons (.text _) (.cons (.value _ _) .nil)))

/-- Statements that differ in values only have fragments that do. -/
theorem alike_fragments {s s' : Statement} (h : s.Alike s') :
    SameUpTo AllAlike (fragments s) (fragments s') := by
  cases h with
  | @insert t sets sets' hs =>
    -- the values differ, but each is one fragment of its own
    have hvalues : List.Forall₂ AllAlike (sets.map fun a => [Fragment.value a.value])
        (sets'.map fun a => [Fragment.value a.value]) :=
      List.forall₂_map_left_iff.2 (List.forall₂_map_right_iff.2
        (hs.imp fun _ _ _ => .cons (.value _ _) .nil))
    have hnames : SameUpTo (List.Forall₂ AllAlike) (sets.mapM fun a => name a.field)
        (sets'.mapM fun a => name a.field) := .mapM hs fun _ _ ha => alike_name ha
    cases hs with
    | nil => exact .error _
    | cons _ _ =>
      refine (SameUpTo.of_eq AllAlike.refl rfl).bind fun _ _ ht => hnames.bind fun _ _ hn => .ok ?_
      refine .cons (.text _) ?_
      have h₁ := ht.append (.cons (.text " (") (AllAlike.joined ", " hn))
      have h₂ : AllAlike _ _ := .cons (.text ") VALUES (") (AllAlike.joined ", " hvalues)
      simpa using (h₁.append h₂).append (.cons (.text ")") .nil)
  | select t f j m hw =>
    refine (SameUpTo.of_eq AllAlike.refl rfl).bind fun _ _ hf =>
      (SameUpTo.of_eq AllAlike.refl rfl).bind fun _ _ ht => ?_
    refine (alike_wheres j hw).bind fun _ _ hw => .ok (.cons (.text _) ?_)
    exact (hf.append (.cons (.text " FROM ") ht)).append hw
  | @update t j sets sets' ws ws' hs hw =>
    have hassignments : SameUpTo (List.Forall₂ AllAlike) (sets.mapM assignment)
        (sets'.mapM assignment) := .mapM hs fun _ _ => alike_assignment
    cases hs with
    | nil => exact .error _
    | cons _ _ =>
      refine (SameUpTo.of_eq AllAlike.refl rfl).bind fun _ _ ht =>
        hassignments.bind fun _ _ ha => ?_
      refine (alike_wheres j hw).bind fun _ _ hw => .ok (.cons (.text _) ?_)
      exact (ht.append (.cons (.text " SET ") (AllAlike.joined ", " ha))).append hw
  | delete t j hw =>
    refine (SameUpTo.of_eq AllAlike.refl rfl).bind fun _ _ ht =>
      (alike_wheres j hw).bind fun _ _ hw => .ok ?_
    exact .cons (.text _) (ht.append hw)

end Render

/-! ## Existence checks -/

namespace Exists

theorem alike_condition {c c' : ExistsCondition} (h : c.Alike c') :
    SameUpTo AllAlike (condition c) (condition c') := by
  obtain ⟨column, vs⟩ := c
  obtain ⟨column', vs'⟩ := c'
  obtain ⟨rfl, hcount⟩ := h
  have hatoms : List.Forall₂ AllAlike
      (vs.map fun v => [Fragment.text (column ++ " = "), .value v])
      (vs'.map fun v => [Fragment.text (column ++ " = "), .value v]) :=
    List.forall₂_map_left_iff.2 (List.forall₂_map_right_iff.2 (List.forall₂_iff_get.2
      ⟨hcount, fun _ _ _ => .cons (.text _) (.cons (.value _ _) .nil)⟩))
  unfold condition
  by_cases hw : Text.isWord column
  · simp only [hw, Bool.not_true, Bool.false_eq_true, if_false]
    generalize vs.map (fun v => [Fragment.text (column ++ " = "), .value v]) = atoms at hatoms ⊢
    generalize vs'.map (fun v => [Fragment.text (column ++ " = "), .value v]) = atoms' at hatoms ⊢
    have hjoined := AllAlike.joined " OR " hatoms
    cases hatoms with
    | nil => exact .error _
    | cons ha hl =>
      cases hl with
      | nil => exact .ok ha
      | cons _ _ => exact .ok (.cons (.text "(") (hjoined.append (.cons (.text ")") .nil)))
  · simp only [hw]
    exact .error _

theorem alike_fragments (t : String) (j : Option Join) {cs cs' : List ExistsCondition}
    (h : List.Forall₂ ExistsCondition.Alike cs cs') :
    SameUpTo AllAlike (fragments t cs j) (fragments t cs' j) := by
  have hparts : SameUpTo (List.Forall₂ AllAlike) (cs.mapM condition) (cs'.mapM condition) :=
    .mapM h fun _ _ => alike_condition
  have hjoin : joinOf cs j = joinOf cs' j := by
    unfold joinOf
    rw [h.length_eq]
  have hempty : cs.isEmpty = cs'.isEmpty := by
    cases h <;> rfl
  unfold fragments
  by_cases ht : Text.isWord t
  · by_cases hc : cs'.isEmpty
    · simp only [ht, hempty, hc]
      exact .error _
    · simp only [ht, hempty, hc, hjoin]
      refine (SameUpTo.of_eq Eq.refl rfl).bind fun k _ hk => hparts.bind fun _ _ hp => ?_
      subst hk
      refine .ok (.cons (.text _) (.cons (.text t) (.cons (.text _) ?_)))
      exact (AllAlike.joined _ hp).append (.cons (.text ")") .nil)
  · simp only [ht]
    exact .error _

end Exists

/-! ## Named values -/

namespace Placeholder

theorem fault?_congr {params params' : Params} (h : params.keys = params'.keys) (start : Nat)
    (p : Piece) : fault? params start p = fault? params' start p := by
  have hcontains (k : String) : params.contains k = params'.contains k := by
    rw [Bool.eq_iff_iff, Keyed.contains_iff, Keyed.contains_iff, h]
  cases p <;> simp only [fault?, hcontains]

/-- A text with values is compiled by the names of these alone. -/
theorem compileNamed_congr {params params' : Params} (h : params.keys = params'.keys)
    (sql : String) :
    (compileNamed sql params).map Bound.sql = (compileNamed sql params').map Bound.sql := by
  have hfault : (fun (x : Nat × Piece) => fault? params x.1 x.2) =
      fun x => fault? params' x.1 x.2 := funext fun x => fault?_congr h x.1 x.2
  unfold compileNamed
  simp only [hfault, h]
  split
  · rfl
  · split <;> rfl

end Placeholder

theorem keys_eq_of_mem_iff {params params' : Params}
    (h : ∀ k, k ∈ params.keys ↔ k ∈ params'.keys) : params.keys = params'.keys :=
  List.Pairwise.eq_of_mem_iff (Entries.sorted_iff_keys.1 params.sorted)
    (Entries.sorted_iff_keys.1 params'.sorted) h

/-- Values do not show in texts. A text with named values compiles to the same text, or fails with
the same error, for all values under the same keys. A statement renders to the same text, or fails
with the same error, whatever its values are, as long as the values of membership conditions are
lists to the same extent; an existence check, as long as each column has as many values. -/
theorem text_independent_of_values :
    (∀ (sql : String) (params params' : Params), (∀ k, k ∈ params.keys ↔ k ∈ params'.keys) →
      (compile sql (some params)).map Bound.sql = (compile sql (some params')).map Bound.sql) ∧
    (∀ s s' : Statement, s.Alike s' → (render s).map Bound.sql = (render s').map Bound.sql) ∧
    (∀ (t : String) (j : Option Join) (cs cs' : List ExistsCondition),
      List.Forall₂ ExistsCondition.Alike cs cs' →
      (renderExists t cs j).map Bound.sql = (renderExists t cs' j).map Bound.sql) := by
  refine ⟨fun sql params params' hk => ?_, fun s s' hs => ?_, fun t j cs cs' hc => ?_⟩
  · have hkeys := keys_eq_of_mem_iff hk
    have hempty : params.isEmpty = params'.isEmpty := by
      rw [← params.isEmpty_keys, hkeys, params'.isEmpty_keys]
    unfold compile
    dsimp only
    rw [hempty]
    split
    · rfl
    · exact Placeholder.compileNamed_congr hkeys sql
  · exact Bound.sql_eq_of_alike (Render.alike_fragments hs)
  · exact Bound.sql_eq_of_alike (Exists.alike_fragments t j hc)

/-- Values with quotes, comments and numbers of parameters leave all three texts as they are. -/
theorem text_independent_of_values_hostile :
    (compile "SELECT %(a)s, %(b)s" (some (.ofList [("a", .str "'; --"), ("b", .null)]))).map
        Bound.sql =
      (compile "SELECT %(a)s, %(b)s" (some (.ofList [("b", .bool true), ("a", .null)]))).map
        Bound.sql ∧
    (render (.update "t" [⟨"f", .null⟩] [⟨"g", .arr [.null], .isIn⟩] .or)).map Bound.sql =
      (render (.update "t" [⟨"f", .str "\""⟩] [⟨"g", .arr [.str "$1", .null], .isIn⟩] .or)).map
        Bound.sql ∧
    (renderExists "t" [⟨"c", [.null, .null]⟩] none).map Bound.sql =
      (renderExists "t" [⟨"c", [.str ")", .arr []]⟩] none).map Bound.sql := by
  obtain ⟨hnamed, hstatement, hexists⟩ := text_independent_of_values
  refine ⟨hnamed _ _ _ ?_, hstatement _ _ ?_, hexists _ _ _ _ ?_⟩
  · intro k
    rfl
  · exact .update "t" .or (.cons rfl .nil) (.cons ⟨rfl, rfl, fun _ => rfl⟩ .nil)
  · exact .cons ⟨rfl, rfl⟩ .nil

end Sql

end PgRole
