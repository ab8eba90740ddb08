import Mathlib.Data.List.Induction
import Mathlib.Data.List.Sort
import PgRole.Keyed
import PgRole.Proofs.Except
import PgRole.Proofs.Text.ByteOrder

/-!
# Walks over tables

When a walk over a table succeeds, when it fails and with which error; and walks whose steps keep to
what a function gives, whatever the state. Entries that stand in order already are left as they are
when a table is made of them (`Entries.ofList_of_sorted`). A table is what it has under each key
(`Keyed.ext_get?`), so that it does not tell in which order its entries were given
(`Keyed.ofList_eq_of_perm`); and its keys increase by octet (`Keyed.keys_increase`).
-/

namespace PgRole

namespace Entries

variable {α β ε σ : Type}

/-- Entries are mapped one by one, each under its key. -/
theorem traverse_eq_ok_iff {f : String → α → Except ε β} {l : List (String × α)}
    {m : List (String × β)} :
    traverse f l = .ok m ↔ List.Forall₂ (fun a b => a.1 = b.1 ∧ f a.1 a.2 = .ok b.2) l m := by
  induction l generalizing m with
  | nil =>
    rw [traverse, List.forall₂_nil_left_iff]
    exact ⟨fun h => by cases h; rfl, fun h => by rw [h]⟩
  | cons a l ih =>
    obtain ⟨k, v⟩ := a
    rw [traverse, bind_eq_ok_iff, List.forall₂_cons_left_iff]
    constructor
    · rintro ⟨w, hw, h⟩
      obtain ⟨ws, hws, h⟩ := bind_eq_ok_iff.1 h
      cases h
      exact ⟨(k, w), ws, ⟨rfl, hw⟩, ih.1 hws, rfl⟩
    · rintro ⟨⟨k', w⟩, ws, ⟨rfl, hw⟩, hws, rfl⟩
      exact ⟨w, hw, bind_eq_ok_iff.2 ⟨ws, ih.2 hws, rfl⟩⟩

/-- A walk fails with the error of the first entry that fails. -/
theorem traverse_eq_error_iff {f : String → α → Except ε β} {l : List (String × α)} {e : ε} :
    traverse f l = .error e ↔ ∃ before k v after, l = before ++ (k, v) :: after ∧
      (∀ a ∈ before, ∃ w, f a.1 a.2 = .ok w) ∧ f k v = .error e := by
  -- the first entry fails, or it does not and a later one does
  induction l with
  | nil => simp [traverse]
  | cons a l ih =>
    obtain ⟨k, v⟩ := a
    rw [traverse, bind_eq_error_iff]
    constructor
    · rintro (hk | ⟨w, hw, h⟩)
      · exact ⟨[], k, v, l, rfl, by simp, hk⟩
      · rcases bind_eq_error_iff.1 h with h | ⟨ws, -, h⟩
        · obtain ⟨before, k', v', after, rfl, hbefore, hk'⟩ := ih.1 h
          exact ⟨(k, v) :: before, k', v', after, rfl,
            List.forall_mem_cons.2 ⟨⟨w, hw⟩, hbefore⟩, hk'⟩
        · cases h
    · rintro ⟨before, k', v', after, hl, hbefore, hk'⟩
      cases before with
      | nil =>
        obtain ⟨h, rfl⟩ := List.cons.inj hl
        cases h
        exact .inl hk'
      | cons a before =>
        obtain ⟨rfl, rfl⟩ := List.cons.inj hl
        obtain ⟨⟨w, hw⟩, hbefore⟩ := List.forall_mem_cons.1 hbefore
        refine .inr ⟨w, hw, bind_eq_error_iff.2 (.inl ?_)⟩
        exact ih.2 ⟨before, k', v', after, rfl, hbefore, hk'⟩

/-- Steps that give what a function gives as long as the state is fit, and leave it so, do so along
a whole list. -/
theorem walk_eq_traverse {fit : σ → Prop} {f : String → α → σ → Except ε β × σ}
    {g : String → α → Except ε β} (hf : ∀ k v s, fit s → (f k v s).1 = g k v ∧ fit (f k v s).2)
    (l : List (String × α)) {s : σ} (hs : fit s) :
    (walk f l s).1 = traverse g l ∧ fit (walk f l s).2 := by
  -- the state is fit before each entry, so each gives what it would by itself
  induction l generalizing s with
  | nil => exact ⟨rfl, hs⟩
  | cons a l ih =>
    obtain ⟨k, v⟩ := a
    obtain ⟨hk, hfit⟩ := hf k v s hs
    rw [walk, traverse, ← hk]
    cases hstep : f k v s with
    | mk r s₁ =>
      rw [hstep] at hfit
      cases r with
      | error e => exact ⟨rfl, hfit⟩
      | ok w =>
        obtain ⟨hrest, hfit⟩ := ih hfit
        dsimp only
        rw [← hrest]
        cases hwalk : walk f l s₁ with
        | mk r s₂ =>
          rw [hwalk] at hfit
          cases r with
          | error e => exact ⟨rfl, hfit⟩
          | ok ws => exact ⟨rfl, hfit⟩

/-! ## Entries in order -/

theorem insert_of_forall_lt {k : String} {v : α} {l : List (String × α)}
    (h : ∀ e ∈ l, e.1 < k) : insert k v l = l ++ [(k, v)] := by
  induction l with
  | nil => rfl
  | cons e l ih =>
    obtain ⟨he, h⟩ := List.forall_mem_cons.1 h
    rw [insert, if_neg (String.lt_asymm he), if_pos he, ih h, List.cons_append]

/-- Entries that are in order without a key twice are a table as they stand. -/
theorem ofList_of_sorted {l : List (String × α)} (h : Sorted l) : ofList l = l := by
  have hfold : ∀ t : List (String × α), Sorted (t ++ l) →
      l.foldl (fun t e => insert e.1 e.2 t) t = t ++ l := by
    clear h
    induction l with
    | nil => simp
    | cons e l ih =>
      intro t ht
      have hlt : ∀ a ∈ t, a.1 < e.1 := fun a ha =>
        (List.pairwise_append.1 ht).2.2 a ha e List.mem_cons_self
      rw [List.foldl_cons, insert_of_forall_lt hlt, ih _ (by simpa using ht), List.append_assoc]
      rfl
  exact hfold [] h

/-- The entries of a table come from the list that it is made of. -/
theorem mem_of_mem_ofList {e : String × α} {l : List (String × α)} (h : e ∈ ofList l) : e ∈ l := by
  have hfold : ∀ t : List (String × α), e ∈ l.foldl (fun t e => insert e.1 e.2 t) t →
      e ∈ t ∨ e ∈ l := by
    clear h
    induction l with
    | nil => simp
    | cons a l ih =>
      intro t ht
      rcases ih _ ht with h | h
      · rcases mem_insert h with rfl | h
        · exact .inr List.mem_cons_self
        · exact .inl h
      · exact .inr (List.mem_cons_of_mem a h)
  exact (hfold [] h).resolve_left List.not_mem_nil

theorem ofList_concat (l : List (String × α)) (k : String) (v : α) :
    ofList (l ++ [(k, v)]) = insert k v (ofList l) := by
  rw [ofList, List.foldl_append]
  rfl

/-! ## Looking up -/

/-- Among entries in order a key has the value that stands with it. -/
theorem get?_eq_some_iff {l : List (String × α)} (h : Sorted l) {k : String} {v : α} :
    get? k l = some v ↔ (k, v) ∈ l := by
  induction l with
  | nil => simp [get?]
  | cons e l ih =>
    obtain ⟨hlt, h⟩ := List.pairwise_cons.1 h
    rw [get?, List.mem_cons]
    by_cases hk : e.1 = k
    · have hnotin : (k, v) ∉ l := fun hmem => by
        have hless := hlt (k, v) hmem
        rw [hk] at hless
        exact String.lt_irrefl k hless
      rw [if_pos hk, Option.some.injEq]
      constructor
      · rintro rfl
        exact .inl (by rw [← hk])
      · rintro (rfl | hmem)
        · rfl
        · exact absurd hmem hnotin
    · rw [if_neg hk, ih h]
      constructor
      · exact .inr
      · rintro (rfl | hmem)
        · exact absurd rfl hk
        · exact hmem

end Entries

namespace Keyed

variable {α β ε σ : Type}

theorem get?_eq_some_iff {t : Keyed α} {k : String} {v : α} :
    t.get? k = some v ↔ (k, v) ∈ t.entries := Entries.get?_eq_some_iff t.sorted

/-- Tables with the same value under every key are equal. -/
theorem ext_get? {s t : Keyed α} (h : ∀ k, s.get? k = t.get? k) : s = t := by
  have : Std.Antisymm fun a b : String × α => a.1 < b.1 :=
    ⟨fun a _ hab hba => absurd (String.lt_trans hab hba) (String.lt_irrefl a.1)⟩
  have : Std.Irrefl fun a b : String × α => a.1 < b.1 := ⟨fun a => String.lt_irrefl a.1⟩
  refine ext_entries (List.Pairwise.eq_of_mem_iff s.sorted t.sorted fun e => ?_)
  rw [← get?_eq_some_iff, ← get?_eq_some_iff, h]

theorem ofList_concat (l : List (String × α)) (k : String) (v : α) :
    ofList (l ++ [(k, v)]) = (ofList l).insert k v :=
  ext_entries (Entries.ofList_concat l k v)

/-- The last entry with a key counts. -/
theorem get?_ofList (l : List (String × α)) (k : String) :
    (ofList l).get? k = (l.reverse.find? fun e => e.1 == k).map (·.2) := by
  induction l using List.reverseRecOn with
  | nil => rfl
  | append_singleton l e ih =>
    rw [ofList_concat, get?_insert, List.reverse_concat, List.find?_cons]
    by_cases hk : e.1 = k
    · simp [hk]
    · rw [if_neg hk, ih, beq_false_of_ne hk]

/-- Entries with different keys are all there. -/
theorem get?_ofList_eq_some_iff {l : List (String × α)} (h : (l.map (·.1)).Nodup) {k : String}
    {v : α} : (ofList l).get? k = some v ↔ (k, v) ∈ l := by
  induction l using List.reverseRecOn with
  | nil => simp [ofList, Entries.ofList, get?, Entries.get?]
  | append_singleton l e ih =>
    rw [List.map_append, List.nodup_append] at h
    obtain ⟨hl, -, hapart⟩ := h
    rw [ofList_concat, get?_insert, List.mem_append, List.mem_singleton, ← ih hl]
    by_cases hk : e.1 = k
    · have hnotin : (ofList l).get? k ≠ some v := fun hmem =>
        hapart k (List.mem_map.2 ⟨_, (ih hl).1 hmem, rfl⟩) e.1 (by simp) hk.symm
      rw [if_pos hk, or_iff_right hnotin, Prod.eq_iff_fst_eq_snd_eq]
      simp [hk, eq_comm]
    · have hne : (k, v) ≠ e := by
        rintro rfl
        exact hk rfl
      rw [if_neg hk, or_iff_left hne]

/-- A table does not tell in which order its entries were given. -/
theorem ofList_eq_of_perm {l l' : List (String × α)} (hperm : l.Perm l')
    (h : (l.map (·.1)).Nodup) : ofList l = ofList l' := by
  have h' : (l'.map (·.1)).Nodup := (hperm.map _).nodup_iff.1 h
  refine ext_get? fun k => Option.ext fun v => ?_
  rw [get?_ofList_eq_some_iff h, get?_ofList_eq_some_iff h', hperm.mem_iff]

/-- Keys increase by octet. -/
theorem keys_increase (t : Keyed α) :
    t.keys.Pairwise fun a b => Bytes.ofText a < Bytes.ofText b := by
  simp only [Bytes.ofText_lt_iff]
  exact Entries.sorted_iff_keys.1 t.sorted

theorem traverse_eq_ok_iff {f : String → α → Except ε β} {t : Keyed α} {m : Keyed β} :
    t.traverse f = .ok m ↔
      List.Forall₂ (fun a b => a.1 = b.1 ∧ f a.1 a.2 = .ok b.2) t.entries m.entries := by
  rw [← Entries.traverse_eq_ok_iff]
  unfold traverse
  split
  · rename_i e h
    rw [h]
    constructor <;> intro h <;> cases h
  · rename_i entries h
    constructor
    · rintro ⟨⟩
      exact h
    · intro h'
      exact congrArg Except.ok (ext_entries (Except.ok.inj (h.symm.trans h')))

/-- Mapping a table fails with the first entry that cannot be mapped. -/
theorem traverse_eq_error_iff {f : String → α → Except ε β} {t : Keyed α} {e : ε} :
    t.traverse f = .error e ↔ ∃ before k v after, t.entries = before ++ (k, v) :: after ∧
      (∀ a ∈ before, ∃ w, f a.1 a.2 = .ok w) ∧ f k v = .error e := by
  rw [← Entries.traverse_eq_error_iff]
  unfold traverse
  split
  · rename_i e' h
    rw [h, Except.error.injEq, Except.error.injEq]
  · rename_i entries h
    constructor
    · intro h'
      cases h'
    · intro h'
      cases h.symm.trans h'

/-- A state that goes along from entry to entry can be left out if it has no part in what comes of
each. -/
theorem walk_eq_traverse {fit : σ → Prop} {f : String → α → σ → Except ε β × σ}
    {g : String → α → Except ε β} (hf : ∀ k v s, fit s → (f k v s).1 = g k v ∧ fit (f k v s).2)
    (t : Keyed α) {s : σ} (hs : fit s) : (t.walk f s).1 = t.traverse g := by
  obtain ⟨hentries, -⟩ := Entries.walk_eq_traverse hf t.entries hs
  unfold walk
  split
  · rename_i e s' h
    rw [h] at hentries
    rw [eq_comm, traverse_eq_error_iff, ← Entries.traverse_eq_error_iff]
    exact hentries.symm
  · rename_i entries s' h
    rw [h] at hentries
    rw [eq_comm, traverse_eq_ok_iff, ← Entries.traverse_eq_ok_iff]
    exact hentries.symm

end Keyed

end PgRole
