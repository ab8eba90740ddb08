import PgRole.Proofs.Sql.Formula
import PgRole.Proofs.Sql.StatementTokens

/-!
# What an existence check asks

The conditions of an existence check are read by the server as they are meant: a row has to have,
for each condition or for some of them, one of the values of the condition. Parentheses stand around
a condition with several values, so that the OR inside does not reach beyond it.

* `isOk_fragments`: which checks have a text (`Exists.Askable`).
* `reads_parts`: each condition is read as an operand that says what the condition says.
-/

namespace PgRole

open Sql

namespace Sql

/-- A name that can be written without quotes. -/
def Plain (name : List Char) : Prop := name ≠ [] ∧ ∀ c ∈ name, Text.isWordChar c

theorem isWord_iff {s : String} : Text.isWord s ↔ Plain s.toList := by
  simp [Text.isWord, Plain]

/-- An existence check has a text. -/
structure Exists.Askable (table : String) (conditions : List ExistsCondition)
    (join : Option Join) : Prop where
  table : Plain table.toList
  nonempty : conditions ≠ []
  columns : ∀ c ∈ conditions, Plain c.column.toList
  values : ∀ c ∈ conditions, c.values ≠ []
  join : 2 ≤ conditions.length → join.isSome

end Sql

/-- The comparisons of a condition, if its first parameter has number `k`. -/
def ExistsCondition.atomsFrom (k : Nat) (c : ExistsCondition) : List Atom :=
  (List.range' k c.values.length).map fun i => ⟨c.column, i⟩

namespace Sql

/-- The comparisons of conditions, those of each by themselves. -/
def Exists.groupsFrom (k : Nat) : List ExistsCondition → List (List Atom)
  | [] => []
  | c :: cs => c.atomsFrom k :: groupsFrom (k + c.values.length) cs

/-! ## Parts of a text -/

namespace Fragment

/-- The texts of parts whose values are numbered through. -/
def textsFrom (k : Nat) : List (List Fragment) → List (List Char)
  | [] => []
  | p :: ps => sqlFrom k p :: textsFrom (k + (p.filterMap value?).length) ps

/-- Parts with a separator between them are written so, each from the number that is due. -/
theorem sqlFrom_joined (k : Nat) (separator : String) (parts : List (List Fragment)) :
    sqlFrom k (joined separator parts) = separator.toList.intercalate (textsFrom k parts) := by
  induction parts generalizing k with
  | nil => rfl
  | cons p parts ih =>
    cases parts with
    | nil => simp [joined, textsFrom]
    | cons q parts =>
      have hq := ih (k + (p.filterMap value?).length)
      rw [joined, sqlFrom_append, sqlFrom, hq]
      · simp [textsFrom]
      · simp

theorem values_joined (separator : String) (parts : List (List Fragment)) :
    (joined separator parts).filterMap value? = parts.flatMap (List.filterMap value?) := by
  induction parts with
  | nil => rfl
  | cons p parts ih =>
    cases parts with
    | nil => simp [joined]
    | cons q parts =>
      rw [joined, List.filterMap_append, List.flatMap_cons, ← ih]
      · rfl
      · simp

end Fragment

namespace Exists

open Fragment

/-! ## When there is a text -/

theorem isOk_condition {c : ExistsCondition} :
    (condition c).isOk ↔ Plain c.column.toList ∧ c.values ≠ [] := by
  obtain ⟨column, values⟩ := c
  rw [← isWord_iff]
  unfold condition
  by_cases hw : Text.isWord column
  · rcases values with _ | ⟨v, _ | ⟨w, values⟩⟩ <;> simp [hw]
  · simp [hw]

theorem isOk_joinOf {cs : List ExistsCondition} {join : Option Join} :
    (joinOf cs join).isOk ↔ cs.length = 1 ∨ join.isSome := by
  cases join with
  | some j => simp [joinOf]
  | none => by_cases h : cs.length = 1 <;> simp [joinOf, h]

/-- An existence check has a text just if it can be asked. -/
theorem isOk_fragments {table : String} {cs : List ExistsCondition} {join : Option Join} :
    (fragments table cs join).isOk ↔ Askable table cs join := by
  have hiff : (fragments table cs join).isOk ↔ Plain table.toList ∧ cs ≠ [] ∧
      (cs.length = 1 ∨ join.isSome) ∧ ∀ c ∈ cs, Plain c.column.toList ∧ c.values ≠ [] := by
    unfold fragments
    by_cases ht : Text.isWord table
    · by_cases hc : cs.isEmpty
      · simp [ht, List.isEmpty_iff.1 hc]
      · have hne : cs ≠ [] := by simpa using hc
        simp only [ht, hc, Bool.not_true, Bool.false_eq_true, if_false, isWord_iff.1 ht, hne,
          true_and, ne_eq, not_false_eq_true]
        rw [← isOk_joinOf]
        simp only [← isOk_condition]
        rw [← isOk_mapM_iff]
        exact isOk_bind_iff fun _ _ => isOk_bind_of_forall fun _ => rfl
    · have hp : ¬ Plain table.toList := fun h => ht (isWord_iff.2 h)
      simp [ht, hp]
  rw [hiff]
  constructor
  · rintro ⟨htable, hne, hjoin, hall⟩
    exact ⟨htable, hne, fun c hc => (hall c hc).1, fun c hc => (hall c hc).2,
      fun h => hjoin.resolve_left (by omega)⟩
  · intro h
    refine ⟨h.table, h.nonempty, ?_, fun c hc => ⟨h.columns c hc, h.values c hc⟩⟩
    -- one condition needs nothing to join it with
    by_cases hlen : 2 ≤ cs.length
    · exact .inr (h.join hlen)
    · have := List.length_pos_iff.2 h.nonempty
      exact .inl (by omega)

/-! ## What the text says -/

/-- The comparisons of a condition are read as its atoms. -/
theorem reads_comparisons {c : ExistsCondition} (h : Plain c.column.toList) (k : Nat) :
    List.Forall₂ ReadsOperand
      (textsFrom k (c.values.map fun v => [.text (c.column ++ " = "), .value v]))
      ((c.atomsFrom k).map .atom) := by
  obtain ⟨column, values⟩ := c
  induction values generalizing k with
  | nil => exact .nil
  | cons v values ih =>
    have hv : ReadsOperand (sqlFrom k [.text (column ++ " = "), .value v])
        (.atom ⟨column, k⟩) := by
      simpa [sqlFrom] using ReadsOperand.comparison h.1 h.2 k
    exact .cons hv (ih (k + 1) h)

/-- Operands with a word between them are read as a formula that joins them from the left. -/
theorem reads_joined (j : Join) {k : Nat} {parts : List (List Fragment)} {f : Formula}
    {fs : List Formula} (h : List.Forall₂ ReadsOperand (textsFrom k parts) (f :: fs)) :
    ReadsFormula (sqlFrom k (joined (" " ++ j.text ++ " ") parts)) (fs.foldl (.joined j) f) := by
  rw [sqlFrom_joined]
  generalize textsFrom k parts = texts at h
  cases h with
  | cons hf h => exact ReadsFormula.intercalate j hf h

/-- The comparisons of a condition with OR between them say that one of them holds. -/
theorem reads_any {c : ExistsCondition} (h : Plain c.column.toList) (hne : c.values ≠ []) (k : Nat) :
    ∃ f, ReadsFormula (sqlFrom k (joined " OR "
        (c.values.map fun v => [.text (c.column ++ " = "), .value v]))) f ∧
      f.atoms = c.atomsFrom k ∧ ∀ ρ, f.holds ρ = (c.atomsFrom k).any ρ := by
  have hreads := reads_comparisons h k
  obtain ⟨a, as, has⟩ : ∃ a as, c.atomsFrom k = a :: as :=
    List.exists_cons_of_ne_nil (by simpa [ExistsCondition.atomsFrom] using hne)
  rw [has, List.map_cons] at hreads
  rw [has]
  refine ⟨(as.map .atom).foldl (.joined .or) (.atom a), reads_joined .or hreads, ?_, fun ρ => ?_⟩
  · rw [Formula.atoms_foldl]
    exact Formula.flatMap_atoms_map_atom (a :: as)
  · rw [Formula.holds_foldl]
    show Join.or.over (((a :: as).map .atom).map (Formula.holds ρ)) = _
    rw [Formula.map_holds_map_atom, Join.over, List.any_map]
    rfl

/-- A condition is read as an operand that says what the condition says. -/
theorem reads_condition {c : ExistsCondition} {p : List Fragment} (h : condition c = .ok p) :
    p.filterMap value? = c.values ∧ ∀ k, ∃ f, ReadsOperand (sqlFrom k p) f ∧
      f.atoms = c.atomsFrom k ∧ ∀ ρ, f.holds ρ = (c.atomsFrom k).any ρ := by
  obtain ⟨hplain, hne⟩ := isOk_condition.1 (isOk_iff.2 ⟨p, h⟩)
  have hcomparisons := reads_comparisons hplain
  have hany := reads_any hplain hne
  obtain ⟨column, values⟩ := c
  have hw : Text.isWord column := isWord_iff.2 hplain
  unfold condition at h
  simp only [hw, Bool.not_true, Bool.false_eq_true, if_false] at h
  rcases values with _ | ⟨v, _ | ⟨w, values⟩⟩
  · exact absurd rfl hne
  · cases h
    refine ⟨rfl, fun k => ⟨.atom ⟨column, k⟩, ?_, rfl, fun ρ => ?_⟩⟩
    · cases hcomparisons k with
      | cons hv _ => exact hv
    · simp [Formula.holds, ExistsCondition.atomsFrom]
  · cases h
    refine ⟨?_, fun k => ?_⟩
    · simp [List.filterMap_append, List.filterMap_cons, value?, values_joined, List.flatMap_map]
    · -- Several values stand in parentheses, which keep the OR inside.
      obtain ⟨f, hf, hsays⟩ := hany k
      refine ⟨f, ?_, hsays⟩
      simpa [sqlFrom, sqlFrom_append] using ReadsOperand.group hf

/-- Conditions are read one by one, with their parameters numbered through. -/
theorem reads_parts {cs : List ExistsCondition} {parts : List (List Fragment)}
    (h : List.Forall₂ (fun c p => condition c = .ok p) cs parts) (k : Nat) :
    parts.flatMap (List.filterMap value?) = cs.flatMap ExistsCondition.values ∧
    ∃ fs, List.Forall₂ ReadsOperand (textsFrom k parts) fs ∧
      fs.map Formula.atoms = groupsFrom k cs ∧
      ∀ ρ, fs.map (Formula.holds ρ) = (groupsFrom k cs).map fun atoms => atoms.any ρ := by
  induction h generalizing k with
  | nil => exact ⟨rfl, [], .nil, rfl, fun ρ => rfl⟩
  | @cons c p cs parts hc h ih =>
    obtain ⟨hvalues, hread⟩ := reads_condition hc
    obtain ⟨f, hf, hatoms, hholds⟩ := hread k
    obtain ⟨hrest, fs, hfs, hgroups, hrests⟩ := ih (k + c.values.length)
    refine ⟨by simp [hvalues, hrest], f :: fs, ?_, ?_, fun ρ => ?_⟩
    · rw [textsFrom, hvalues]
      exact .cons hf hfs
    · simp [groupsFrom, hatoms, hgroups]
    · simp [groupsFrom, hholds, hrests]

/-! ## Which parameter belongs to which column -/

theorem params_atomsFrom (k : Nat) (c : ExistsCondition) :
    (c.atomsFrom k).map Atom.param = List.range' k c.values.length := by
  simp [ExistsCondition.atomsFrom, Function.comp_def]

theorem columns_atomsFrom (k : Nat) (c : ExistsCondition) :
    ((c.atomsFrom k).map Atom.column).zip c.values = c.values.map fun v => (c.column, v) :=
  List.ext_getElem (by simp [ExistsCondition.atomsFrom]) fun _ _ _ => by
    simp [ExistsCondition.atomsFrom]

/-- The atoms of all conditions have the numbers of the values, in their order. -/
theorem params_groupsFrom (k : Nat) (cs : List ExistsCondition) :
    (groupsFrom k cs).flatten.map Atom.param =
      List.range' k (cs.flatMap ExistsCondition.values).length := by
  induction cs generalizing k with
  | nil => rfl
  | cons c cs ih =>
    rw [groupsFrom, List.flatten_cons, List.map_append, params_atomsFrom, ih,
      List.range'_append_1, List.flatMap_cons, List.length_append]

/-- The atoms of a condition are of its column, each with a value of it. -/
theorem columns_groupsFrom (k : Nat) (cs : List ExistsCondition) :
    ((groupsFrom k cs).flatten.map Atom.column).zip (cs.flatMap ExistsCondition.values) =
      cs.flatMap fun c => c.values.map fun v => (c.column, v) := by
  induction cs generalizing k with
  | nil => rfl
  | cons c cs ih =>
    have hlen : ((c.atomsFrom k).map Atom.column).length = c.values.length := by
      simp [ExistsCondition.atomsFrom]
    rw [groupsFrom, List.flatten_cons, List.map_append, List.flatMap_cons, List.zip_append hlen,
      ih, columns_atomsFrom, List.flatMap_cons]

theorem joinOf_eq {cs : List ExistsCondition} {join : Option Join} {j : Join}
    (h : joinOf cs join = .ok j) : j = join.getD .and := by
  cases join with
  | some k =>
    cases h
    rfl
  | none =>
    rw [joinOf] at h
    split at h
    · cases h
      rfl
    · cases h

/-- The text of an existence check is its frame around the conditions. -/
theorem exists_parts {table : String} {cs : List ExistsCondition} {join : Option Join}
    {fs : List Fragment} (h : fragments table cs join = .ok fs) :
    ∃ parts, List.Forall₂ (fun c p => condition c = .ok p) cs parts ∧
      fs = .text "SELECT EXISTS (SELECT * FROM " :: .text table :: .text " WHERE " ::
        joined (" " ++ (join.getD .and).text ++ " ") parts ++ [.text ")"] := by
  have hask := isOk_fragments.1 (isOk_iff.2 ⟨fs, h⟩)
  unfold fragments at h
  simp only [isWord_iff.2 hask.table, List.isEmpty_iff, hask.nonempty, Bool.not_true,
    Bool.false_eq_true, if_false] at h
  obtain ⟨j, hj, h⟩ := bind_eq_ok_iff.1 h
  obtain ⟨parts, hparts, h⟩ := bind_eq_ok_iff.1 h
  cases h
  rw [joinOf_eq hj]
  exact ⟨parts, mapM_eq_ok_iff.1 hparts, rfl⟩

end Exists

/-- An existence check has a text exactly if its names are plain, it has conditions, each condition
has values, and two or more are joined. The values of the text are those of the conditions in order;
each comparison has the next parameter and the column whose value that is; and the conditions are
read as the join of what each says, which is that one of its comparisons holds. -/
theorem renderExists_reads (table : String) (cs : List ExistsCondition) (join : Option Join) :
    (Exists.Askable table cs join ∧ ∃ b text f, renderExists table cs join = .ok b ∧
      b.sql.toList = "SELECT EXISTS (SELECT * FROM ".toList ++ table.toList ++ " WHERE ".toList ++
        text ++ [')'] ∧
      b.args = cs.flatMap ExistsCondition.values ∧
      formula? text = some f ∧
      f.atoms.map Atom.param = List.range' 1 b.args.length ∧
      (f.atoms.map Atom.column).zip b.args =
        cs.flatMap (fun c => c.values.map fun v => (c.column, v)) ∧
      f.atoms = (Exists.groupsFrom 1 cs).flatten ∧
      ∀ ρ, f.holds ρ = (join.getD .and).over
        ((Exists.groupsFrom 1 cs).map fun atoms => atoms.any ρ)) ∨
    (¬ Exists.Askable table cs join ∧ ∃ e, renderExists table cs join = .error e) := by
  cases h : renderExists table cs join with
  | error e =>
    right
    refine ⟨fun hask => ?_, e, rfl⟩
    obtain ⟨fs, hfs⟩ := isOk_iff.1 (Exists.isOk_fragments.2 hask)
    rw [renderExists, hfs] at h
    cases h
  | ok b =>
    left
    obtain ⟨fs, hfs, rfl⟩ := map_eq_ok_iff.1 h
    have hask := Exists.isOk_fragments.1 (isOk_iff.2 ⟨fs, hfs⟩)
    obtain ⟨parts, hparts, rfl⟩ := Exists.exists_parts hfs
    obtain ⟨hvalues, gs, hreads, hatoms, hholds⟩ := Exists.reads_parts hparts 1
    -- there is a first group, since there is a condition
    obtain ⟨g, gs, rfl⟩ : ∃ g gs', gs = g :: gs' := by
      refine List.exists_cons_of_ne_nil fun hnil => hask.nonempty ?_
      cases cs with
      | nil => rfl
      | cons c cs => simp [hnil, Exists.groupsFrom] at hatoms
    -- the groups are joined from the left, as they are read
    let f := gs.foldl (.joined (join.getD .and)) g
    have hargs : (Bound.ofFragments (.text "SELECT EXISTS (SELECT * FROM " :: .text table ::
        .text " WHERE " :: Fragment.joined (" " ++ (join.getD .and).text ++ " ") parts ++
        [.text ")"])).args = cs.flatMap ExistsCondition.values := by
      simp [Bound.ofFragments, List.filterMap_cons, Fragment.value?, Fragment.values_joined,
        hvalues]
    have hflatten : f.atoms = (Exists.groupsFrom 1 cs).flatten := by
      rw [Formula.atoms_foldl, List.flatMap_def, hatoms]
    refine ⟨hask, _, Fragment.sqlFrom 1 (Fragment.joined _ parts), f, rfl, ?_, hargs,
      (Exists.reads_joined (join.getD .and) hreads).formula?_eq, ?_, ?_, hflatten, fun ρ => ?_⟩
    · simp [Bound.ofFragments, Fragment.sqlFrom, Fragment.sqlFrom_append]
    · rw [hflatten, hargs, Exists.params_groupsFrom]
    · rw [hflatten, hargs, Exists.columns_groupsFrom]
    · rw [Formula.holds_foldl, hholds]

end Sql

end PgRole
