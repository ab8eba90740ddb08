/-!
# Sorted tables

A table from texts to values, kept in strictly increasing order of the keys, so that two tables
with the same entries are equal and a walk over one meets the keys in one order. The order is by
code point, which is also the order of the UTF-8 forms by octet.

* `get?_insert`: looking up after an insertion.
* `ofList` keeps, for a key given more than once, the last value.
-/

namespace PgRole

namespace Entries

variable {α : Type}

/-- Puts a value under a key at its place in an increasing list, replacing the value there. -/
def insert (k : String) (v : α) : List (String × α) → List (String × α)
  | [] => [(k, v)]
  | (k', v') :: r =>
    if k < k' then (k, v) :: (k', v') :: r
    else if k' < k then (k', v') :: insert k v r
    else (k, v) :: r

/-- The value under a key. -/
def get? (k : String) : List (String × α) → Option α
  | [] => none
  | (k', v) :: r => if k' = k then some v else get? k r

/-- The keys strictly increase. -/
def Sorted (l : List (String × α)) : Prop := l.Pairwise fun a b => a.1 < b.1

/-- The list of entries in increasing order of their keys, the last value for each key. -/
def ofList (l : List (String × α)) : List (String × α) := l.foldl (fun t e => insert e.1 e.2 t) []

/-- What a list has after an entry is put in is this entry, or was there before. -/
theorem mem_insert {k : String} {v : α} {l : List (String × α)} {e : String × α}
    (h : e ∈ insert k v l) : e = (k, v) ∨ e ∈ l := by
  induction l with
  | nil => simpa [insert] using h
  | cons a r ih =>
    rw [insert] at h
    split at h
    · simpa using h
    · split at h
      · rcases List.mem_cons.1 h with h | h
        · simp [h]
        · rcases ih h with h | h <;> simp [h]
      · rcases List.mem_cons.1 h with h | h <;> simp [h]

/-- An entry is put in at its place. -/
theorem sorted_insert {k : String} {v : α} {l : List (String × α)} (h : Sorted l) :
    Sorted (insert k v l) := by
  induction l with
  | nil => simp [Sorted, insert]
  | cons a r ih =>
    have hr := (List.pairwise_cons.1 h)
    rw [insert]
    split
    · rename_i hlt
      refine List.pairwise_cons.2 ⟨fun e he => ?_, h⟩
      rcases List.mem_cons.1 he with rfl | he
      · exact hlt
      · exact String.lt_trans hlt (hr.1 e he)
    · rename_i hge
      split
      · rename_i hlt
        refine List.pairwise_cons.2 ⟨fun e he => ?_, ih hr.2⟩
        rcases mem_insert he with rfl | he
        · exact hlt
        · exact hr.1 e he
      · rename_i hle
        have heq : a.1 = k := String.le_antisymm (String.not_lt.1 hge) (String.not_lt.1 hle)
        exact List.pairwise_cons.2 ⟨fun e he => heq ▸ hr.1 e he, hr.2⟩

theorem sorted_ofList (l : List (String × α)) : Sorted (ofList l) := by
  have : ∀ (t : List (String × α)), Sorted t →
      Sorted (l.foldl (fun t e => insert e.1 e.2 t) t) := by
    induction l with
    | nil => exact fun t ht => ht
    | cons e r ih => exact fun t ht => ih _ (sorted_insert ht)
  exact this [] List.Pairwise.nil

/-- A key that was put in has the new value, and any other key the one it had. -/
theorem get?_insert (k k' : String) (v : α) (l : List (String × α)) :
    get? k' (insert k v l) = if k = k' then some v else get? k' l := by
  induction l with
  | nil => simp [insert, get?]
  | cons a r ih =>
    rw [insert]
    split
    · simp [get?]
    · rename_i hge
      split
      · rename_i hlt
        simp only [get?, ih]
        by_cases h : a.1 = k'
        · have : k ≠ k' := by rintro rfl; exact String.lt_irrefl _ (h ▸ hlt)
          simp [h, this]
        · simp [h]
      · rename_i hle
        have heq : a.1 = k := String.le_antisymm (String.not_lt.1 hge) (String.not_lt.1 hle)
        simp only [get?, heq]
        split <;> rfl

theorem get?_isSome_iff {k : String} {l : List (String × α)} :
    (get? k l).isSome ↔ k ∈ l.map (·.1) := by
  induction l with
  | nil => simp [get?]
  | cons a r ih =>
    rw [get?]
    split
    · rename_i h; simp [h]
    · rename_i h; simp [ih, Ne.symm h]

/-- The values a function gives for keys and values, or its first error. -/
def traverse {β ε : Type} (f : String → α → Except ε β) :
    List (String × α) → Except ε (List (String × β))
  | [] => .ok []
  | (k, v) :: r => do
    let w ← f k v
    let ws ← traverse f r
    pure ((k, w) :: ws)

/-- Mapping the values leaves the keys as they are. -/
theorem keys_traverse {β ε : Type} {f : String → α → Except ε β} {l : List (String × α)}
    {m : List (String × β)} (h : traverse f l = .ok m) : m.map (·.1) = l.map (·.1) := by
  induction l generalizing m with
  | nil => cases h; rfl
  | cons e r ih =>
    obtain ⟨k, v⟩ := e
    rw [traverse] at h
    cases hf : f k v with
    | error e => rw [hf] at h; cases h
    | ok w =>
      cases hr : traverse f r with
      | error e => rw [hf, hr] at h; cases h
      | ok ws => rw [hf, hr] at h; cases h; simp [ih hr]

/-- The values that steps on a state give for keys and values, up to the first that fails, and the
state after them. -/
def walk {β ε σ : Type} (f : String → α → σ → Except ε β × σ) :
    List (String × α) → σ → Except ε (List (String × β)) × σ
  | [], s => (.ok [], s)
  | (k, v) :: r, s =>
    match f k v s with
    | (.error e, s) => (.error e, s)
    | (.ok w, s) =>
      match walk f r s with
      | (.error e, s) => (.error e, s)
      | (.ok ws, s) => (.ok ((k, w) :: ws), s)

/-- So does mapping them with a state that goes along. -/
theorem keys_walk {β ε σ : Type} {f : String → α → σ → Except ε β × σ} {l : List (String × α)}
    {s : σ} {m : List (String × β)} (h : (walk f l s).1 = .ok m) :
    m.map (·.1) = l.map (·.1) := by
  induction l generalizing s m with
  | nil => cases h; rfl
  | cons e r ih =>
    obtain ⟨k, v⟩ := e
    rw [walk] at h
    split at h
    · cases h
    · rename_i w s' _
      split at h
      · cases h
      · rename_i ws s'' hws
        cases h
        simp [ih (congrArg Prod.fst hws)]

theorem sorted_iff_keys {l : List (String × α)} :
    Sorted l ↔ (l.map (·.1)).Pairwise (· < ·) := by
  simp [Sorted, List.pairwise_map]

end Entries

/-- A table from texts to values with strictly increasing keys. -/
structure Keyed (α : Type) where
  entries : List (String × α)
  sorted : Entries.Sorted entries

namespace Keyed

variable {α β : Type}

/-- The table without entries. -/
def empty : Keyed α := ⟨[], List.Pairwise.nil⟩

instance : EmptyCollection (Keyed α) := ⟨empty⟩

instance : Inhabited (Keyed α) := ⟨empty⟩

/-- The value under a key. -/
def get? (t : Keyed α) (k : String) : Option α := Entries.get? k t.entries

/-- Puts a value under a key. -/
def insert (t : Keyed α) (k : String) (v : α) : Keyed α :=
  ⟨Entries.insert k v t.entries, Entries.sorted_insert t.sorted⟩

/-- The table of a list of entries; of those with one key the last counts. -/
def ofList (l : List (String × α)) : Keyed α := ⟨Entries.ofList l, Entries.sorted_ofList l⟩

/-- The keys in increasing order. -/
def keys (t : Keyed α) : List String := t.entries.map (·.1)

/-- The number of entries. -/
def size (t : Keyed α) : Nat := t.entries.length

/-- Whether there is no entry. -/
def isEmpty (t : Keyed α) : Bool := t.entries.isEmpty

/-- Whether a key has a value. -/
def contains (t : Keyed α) (k : String) : Bool := (t.get? k).isSome

/-- The same keys with the values a function gives. -/
def map (f : String → α → β) (t : Keyed α) : Keyed β where
  entries := t.entries.map fun e => (e.1, f e.1 e.2)
  sorted := by
    have h := t.sorted
    simp only [Entries.Sorted, List.pairwise_map] at h ⊢
    exact h

/-- The same keys with the values a function gives, or its first error in the order of keys. -/
def traverse {ε : Type} (f : String → α → Except ε β) (t : Keyed α) : Except ε (Keyed β) :=
  match h : Entries.traverse f t.entries with
  | .error e => .error e
  | .ok entries => .ok ⟨entries, by
      rw [Entries.sorted_iff_keys, Entries.keys_traverse h, ← Entries.sorted_iff_keys]
      exact t.sorted⟩

/-- The same keys with the values that steps on a state give, or the first error in the order of
keys; and the state after the steps that were made. -/
def walk {ε σ : Type} (f : String → α → σ → Except ε β × σ) (t : Keyed α) (s : σ) :
    Except ε (Keyed β) × σ :=
  match h : Entries.walk f t.entries s with
  | (.error e, s) => (.error e, s)
  | (.ok entries, s) => (.ok ⟨entries, by
      rw [Entries.sorted_iff_keys, Entries.keys_walk (congrArg Prod.fst h),
        ← Entries.sorted_iff_keys]
      exact t.sorted⟩, s)

theorem ext_entries {s t : Keyed α} (h : s.entries = t.entries) : s = t := by
  cases s; cases t; cases h; rfl

theorem contains_iff {t : Keyed α} {k : String} : t.contains k ↔ k ∈ t.keys :=
  Entries.get?_isSome_iff

theorem length_keys (t : Keyed α) : t.keys.length = t.size := by simp [keys, size]

theorem isEmpty_keys (t : Keyed α) : t.keys.isEmpty = t.isEmpty := by simp [keys, isEmpty]

theorem nodup_keys (t : Keyed α) : t.keys.Nodup :=
  (Entries.sorted_iff_keys.1 t.sorted).imp fun h => by rintro rfl; exact String.lt_irrefl _ h

theorem get?_insert (t : Keyed α) (k k' : String) (v : α) :
    (t.insert k v).get? k' = if k = k' then some v else t.get? k' :=
  Entries.get?_insert k k' v t.entries

end Keyed

end PgRole
