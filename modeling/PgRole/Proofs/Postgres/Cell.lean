import PgRole.Proofs.Postgres.Panics
import PgRole.Proofs.Postgres.RoundTrip

/-!
# What cells show

The types that cells are read by, in one table (`cellForms`), and what becomes of a type that is not
there. A domain is unwrapped down to the first name in the table (`SqlType.unwrap`); what is reached
has to be in the table or an enumeration (`SqlType.Mapped`), or else no cell shows, not even null.

* `Cell.readsNull_of_shown`: a cell is shown as null for a reason only.
* `Cell.panics_of_shown`: reading a cell panics for a reason only.
* `Row.values_eq_ok_iff`, `Row.values_eq_error_iff`: a row shows with one value a column, or it
  fails at the leftmost cell that does, with an error or in a panic.
-/

namespace PgRole.Postgres

open Attempt

/-! ## Forms by name -/

/-- The names of types by which cells are read, each with its form. -/
def cellForms : List (String × CellForm) :=
  [("BOOL", .scalar .bool), ("INT2", .scalar .int2), ("INT4", .scalar .int4),
    ("INT8", .scalar .int8), ("OID", .oid), ("\"CHAR\"", .letter), ("FLOAT4", .scalar .float4),
    ("FLOAT8", .scalar .float8), ("NUMERIC", .scalar .numeric), ("MONEY", .money),
    ("TEXT", .scalar .text), ("VARCHAR", .scalar .text), ("BPCHAR", .scalar .text),
    ("NAME", .scalar .text), ("CITEXT", .scalar .text), ("XML", .scalar .text),
    ("UNKNOWN", .scalar .text), ("BYTEA", .octets), ("UUID", .scalar .uuid),
    ("DATE", .scalar .date), ("TIME", .scalar .time), ("TIMETZ", .timetz),
    ("TIMESTAMP", .scalar .timestamp), ("TIMESTAMPTZ", .scalar .timestamptz),
    ("INTERVAL", .interval), ("JSON", .json), ("JSONB", .json), ("VOID", .void),
    ("BOOL[]", .list .bool), ("INT2[]", .list .int2), ("INT4[]", .list .int4),
    ("INT8[]", .list .int8), ("FLOAT4[]", .list .float4), ("FLOAT8[]", .list .float8),
    ("NUMERIC[]", .list .numeric), ("TEXT[]", .list .text), ("VARCHAR[]", .list .text),
    ("BPCHAR[]", .list .text), ("NAME[]", .list .text), ("UUID[]", .list .uuid),
    ("DATE[]", .list .date), ("TIMESTAMP[]", .list .timestamp),
    ("TIMESTAMPTZ[]", .list .timestamptz), ("JSON[]", .jsonList), ("JSONB[]", .jsonList)]

/-- The names by which cells are read. -/
def cellNames : List String := cellForms.map Prod.fst

/-- The name of a list is that of its elements with brackets behind it. -/
theorem elementName?_eq_some {name element : String} (h : elementName? name = some element) :
    name = element ++ "[]" := by
  unfold elementName? at h
  split at h
  · rename_i r hr
    cases h
    have hname : name.toList = r.reverse ++ ['[', ']'] := by
      rw [← List.reverse_reverse name.toList, hr]
      simp
    refine String.toList_injective ?_
    simpa using hname
  · cases h

theorem scalar_mem_cellForms {name : String} {s : Scalar} (h : Scalar.ofName? name = some s) :
    (name, .scalar s) ∈ cellForms := by
  unfold Scalar.ofName? at h
  split at h <;> cases h <;> decide

/-- The table has the forms of lists. -/
theorem list_mem_cellForms {element : String} {s : Scalar}
    (h : Scalar.ofElementName? element = some s) :
    (element ++ "[]", .list s) ∈ cellForms := by
  unfold Scalar.ofElementName? at h
  split at h
  · cases h
  · cases h
  · unfold Scalar.ofName? at h
    split at h <;> cases h <;> first | decide | contradiction

/-- The table has the forms of types that are not lists. -/
theorem single_mem_cellForms {name : String} {form : CellForm}
    (h : CellForm.single? name = some form) : (name, form) ∈ cellForms := by
  unfold CellForm.single? at h
  split at h
  all_goals first
    | (cases h; decide)
    | (obtain ⟨s, hs, rfl⟩ := Option.map_eq_some_iff.1 h
       exact scalar_mem_cellForms hs)

/-- The table has the forms by name. -/
theorem CellForm.ofName?_eq_some_iff {name : String} {form : CellForm} :
    CellForm.ofName? name = some form ↔ (name, form) ∈ cellForms := by
  constructor
  · intro h
    unfold CellForm.ofName? at h
    split at h
    · rename_i he
      cases h
      rw [elementName?_eq_some he]
      decide
    · rename_i he
      cases h
      rw [elementName?_eq_some he]
      decide
    · rename_i he
      obtain ⟨s, hs, rfl⟩ := Option.map_eq_some_iff.1 h
      rw [elementName?_eq_some he]
      exact list_mem_cellForms hs
    · exact single_mem_cellForms h
  · have hall : ∀ e ∈ cellForms, CellForm.ofName? e.1 = some e.2 := by decide
    exact hall (name, form)

theorem mem_cellNames {name : String} {form : CellForm} (h : (name, form) ∈ cellForms) :
    name ∈ cellNames := List.mem_map_of_mem h

theorem CellForm.ofName?_eq_none_iff {name : String} :
    CellForm.ofName? name = none ↔ name ∉ cellNames := by
  rw [Option.eq_none_iff_forall_ne_some, cellNames, List.mem_map]
  constructor
  · rintro h ⟨⟨name, form⟩, hmem, rfl⟩
    exact h form (ofName?_eq_some_iff.2 hmem)
  · intro h form hform
    exact h ⟨(name, form), ofName?_eq_some_iff.1 hform, rfl⟩

/-! ## What a type is read as -/

namespace SqlType

/-- The type that a type is read as: domains are unwrapped, down to one that cells are read by. -/
def unwrap : SqlType → SqlType
  | domain name base => if name ∈ cellNames then domain name base else base.unwrap
  | t => t

/-- Cells are read by the name of a type, or it is an enumeration. -/
def Mapped (t : SqlType) : Prop := t.name ∈ cellNames ∨ ∃ name, t = enumeration name

end SqlType

/-- What the cells of a type are read as goes by the name of the type that it is unwrapped to. -/
theorem CellForm.mem_of_ofType? {t : SqlType} {form : CellForm} (h : ofType? t = some form) :
    (t.unwrap.name, form) ∈ cellForms ∨
      (∃ name, t.unwrap = .enumeration name) ∧ form = .scalar .text := by
  induction t with
  | plain name => exact .inl (ofName?_eq_some_iff.1 h)
  | enumeration name =>
    rw [ofType?] at h
    split_ifs at h
    rcases Option.or_eq_some_iff.1 h with h | ⟨-, h⟩
    · exact .inl (ofName?_eq_some_iff.1 h)
    · cases h
      exact .inr ⟨⟨name, rfl⟩, rfl⟩
  | domain name base ih =>
    rw [ofType?] at h
    split_ifs at h
    rw [SqlType.unwrap]
    rcases Option.or_eq_some_iff.1 h with h | ⟨hnone, h⟩
    · have hmem := ofName?_eq_some_iff.1 h
      rw [if_pos (mem_cellNames hmem)]
      exact .inl hmem
    · rw [if_neg (ofName?_eq_none_iff.1 hnone)]
      exact ih h

theorem CellForm.mapped_of_ofType? {t : SqlType} {form : CellForm} (h : ofType? t = some form) :
    t.unwrap.Mapped := by
  rcases mem_of_ofType? h with hmem | ⟨hname, -⟩
  · exact .inl (mem_cellNames hmem)
  · exact .inr hname

namespace Cell

variable {t : SqlType}

/-- No cell of a type shows, not even null and not even a missing one, unless the type is read as
one with a mapping. -/
theorem shown_of_not_mapped (h : ¬ t.unwrap.Mapped) (cell : Option (Option Bytes)) :
    shown t cell = .error (.error (.unsupported (CellForm.unsupportedName t))) := by
  have hform : CellForm.ofType? t = none := by
    rw [Option.eq_none_iff_forall_ne_some]
    intro form hform
    exact h (CellForm.mapped_of_ofType? hform)
  cases cell with
  | none => rw [shown, Option.elim_none, missing, hform]
  | some cell => rw [shown, Option.elim_some, toJson, hform]

/-- Unless its type is without a form, a cell shows as its octets decode. -/
theorem exists_form_of_toJson {bs : Bytes} {r : Attempt Fault Json}
    (h : toJson t (some bs) = r) (hr : ∀ name, r ≠ .error (.error (.unsupported name))) :
    ∃ form, CellForm.ofType? t = some form ∧
      (decode t bs form).mapError (Abort.map fun _ => .undecodable) = r := by
  cases hform : CellForm.ofType? t with
  | none =>
    rw [toJson, hform] at h
    exact absurd h.symm (hr _)
  | some form =>
    rw [toJson, hform] at h
    exact ⟨form, rfl, h⟩

/-- A missing cell shows in the empty type only. -/
theorem form_of_missing {j : Json} (h : missing t = .ok j) : CellForm.ofType? t = some .void := by
  unfold missing at h
  split at h
  · cases h
  · assumption
  · cases h

end Cell

/-! ## Nulls -/

theorem Scalar.integer_ne_null {i : Int} (h : -2 ^ 63 ≤ i ∧ i < 2 ^ 63) : integer i ≠ .null := by
  have hrange : Json.minInt ≤ i ∧ i ≤ Json.maxInt := by
    unfold Json.minInt Json.maxInt
    omega
  rw [integer, Json.Number.ofInt?, dif_pos hrange]
  simp

theorem Scalar.float_eq_null_iff {x : Binary64} : float x = .null ↔ x.isFinite = false := by
  unfold float Json.Number.ofFloat?
  by_cases h : x.isFinite <;> simp [h]

/-- A value that is not finite. -/
def Scalar.NotFinite : (s : Scalar) → s.Value → Prop
  | .float4, x => x.isFinite = false
  | .float8, x => x.isFinite = false
  | _, _ => False

/-- Only floats are shown as null, those that are not finite. -/
theorem Scalar.notFinite_of_toJson {s : Scalar} {v : s.Value} (h : s.toJson v = .null) :
    s.NotFinite v := by
  cases s with
  | int2 =>
    have := Int16.le_toInt v
    have := Int16.toInt_lt v
    exact integer_ne_null (by omega) h
  | int4 =>
    have := Int32.le_toInt v
    have := Int32.toInt_lt v
    exact integer_ne_null (by omega) h
  | int8 =>
    have := Int64.le_toInt v
    have := Int64.toInt_lt v
    exact integer_ne_null (by omega) h
  | float4 =>
    have hdouble := float_eq_null_iff.1 h
    by_contra hfinite
    have := (Binary.convert_convert (Bool.not_eq_false _ ▸ hfinite)).1
    simp [hdouble] at this
  | float8 => exact float_eq_null_iff.1 h
  | _ => cases h

/-- Octets are digits to the base 256, and denote no more than so many can. -/
theorem foldl_octets_lt (bs : Bytes) (n : Nat) :
    bs.foldl (fun n b => 256 * n + b.toNat) n < (n + 1) * 256 ^ bs.length := by
  induction bs generalizing n with
  | nil => simp
  | cons b bs ih =>
    have hb : b.toNat < 256 := b.toNat_lt
    calc bs.foldl (fun n b => 256 * n + b.toNat) (256 * n + b.toNat)
        < (256 * n + b.toNat + 1) * 256 ^ bs.length := ih _
      _ ≤ ((n + 1) * 256) * 256 ^ bs.length := Nat.mul_le_mul_right _ (by omega)
      _ = (n + 1) * 256 ^ (bs.length + 1) := by rw [Nat.pow_succ, Nat.mul_assoc, Nat.mul_comm 256]

theorem Scalar.nat?_lt {width n : Nat} {bs : Bytes} (h : nat? width bs = some n) :
    n < 256 ^ width := by
  obtain ⟨⟨m, rest⟩, htake, rfl⟩ := Option.map_eq_some_iff.1 h
  obtain ⟨⟨a, r⟩, htake, hm⟩ := Option.map_eq_some_iff.1 htake
  cases hm
  have := foldl_octets_lt a 0
  rwa [length_of_take? htake, Nat.zero_add, Nat.one_mul] at this

namespace Cell

/-- Octets give null only as the empty type, as the JSON value null, or as a float that is not
finite. -/
theorem decode_eq_null {t : SqlType} {bs : Bytes} {form : CellForm}
    (h : decode t bs form = .ok .null) :
    form = .void ∨ form = .json ∧ json (t = .plain "JSONB") bs = .ok .null ∨
      ∃ s v, form = .scalar s ∧ s.decode bs = .ok v ∧ s.NotFinite v := by
  cases form with
  | void => exact .inl rfl
  | json => exact .inr (.inl ⟨rfl, h⟩)
  | scalar s =>
    obtain ⟨v, hv, hnull⟩ := map_eq_ok_iff.1 h
    exact .inr (.inr ⟨s, v, rfl, hv, Scalar.notFinite_of_toJson hnull⟩)
  | oid =>
    obtain ⟨n, hn, hnull⟩ := Option.map_eq_some_iff.1 (orPanic_eq_ok_iff.1 h)
    have := Scalar.nat?_lt hn
    exact absurd hnull (Scalar.integer_ne_null (by omega))
  | letter => cases h
  | octets => cases h
  | money => simp [decode] at h
  | timetz => simp [decode] at h
  | interval => simp [decode] at h
  | list s => simp [decode, map_eq_ok_iff, listJson] at h
  | jsonList => simp [decode, map_eq_ok_iff, listJson] at h

/-- The reasons for which a cell is shown as null: it is null, its type is the empty one, it is the
JSON value null, or a float that is not finite. -/
inductive ReadsNull (t : SqlType) : Option (Option Bytes) → Prop
  | null : ReadsNull t (some none)
  | void {cell : Option (Option Bytes)} (h : t.unwrap.name = "VOID") : ReadsNull t cell
  | json {bs : Bytes} (h : t.unwrap.name = "JSON" ∨ t.unwrap.name = "JSONB")
    (hnull : json (t = .plain "JSONB") bs = .ok .null) : ReadsNull t (some (some bs))
  | float4 {bs : Bytes} {x : Binary32} (h : t.unwrap.name = "FLOAT4")
    (hx : Scalar.float4.decode bs = .ok x) (hfinite : x.isFinite = false) :
    ReadsNull t (some (some bs))
  | float8 {bs : Bytes} {x : Binary64} (h : t.unwrap.name = "FLOAT8")
    (hx : Scalar.float8.decode bs = .ok x) (hfinite : x.isFinite = false) :
    ReadsNull t (some (some bs))

theorem name_of_void {t : SqlType} (h : CellForm.ofType? t = some .void) :
    t.unwrap.name = "VOID" := by
  have hvoid : ∀ e ∈ cellForms, e.2 = .void → e.1 = "VOID" := by decide
  rcases CellForm.mem_of_ofType? h with hmem | ⟨-, h⟩
  · exact hvoid _ hmem rfl
  · cases h

/-- Octets are shown as null for a reason only. -/
theorem readsNull_of_decode {t : SqlType} {bs : Bytes} {form : CellForm}
    (hform : CellForm.ofType? t = some form) (h : decode t bs form = .ok .null) :
    ReadsNull t (some (some bs)) := by
  have hjson : ∀ e ∈ cellForms, e.2 = .json → e.1 = "JSON" ∨ e.1 = "JSONB" := by decide
  have hfloat4 : ∀ e ∈ cellForms, e.2 = .scalar .float4 → e.1 = "FLOAT4" := by decide
  have hfloat8 : ∀ e ∈ cellForms, e.2 = .scalar .float8 → e.1 = "FLOAT8" := by decide
  rcases CellForm.mem_of_ofType? hform with hmem | ⟨-, rfl⟩
  · rcases decode_eq_null h with rfl | ⟨rfl, hnull⟩ | ⟨s, v, rfl, hv, hfinite⟩
    · exact .void (name_of_void hform)
    · exact .json (hjson _ hmem rfl) hnull
    · cases s with
      | float4 => exact .float4 (hfloat4 _ hmem rfl) hv hfinite
      | float8 => exact .float8 (hfloat8 _ hmem rfl) hv hfinite
      | _ => exact hfinite.elim
  · -- an enumeration is a text, which is never shown as null
    rcases decode_eq_null h with hf | ⟨hf, -⟩ | ⟨s, v, hf, -, hfinite⟩
    · cases hf
    · cases hf
    · cases hf
      exact hfinite.elim

/-- A cell is shown as null for a reason only. -/
theorem readsNull_of_shown {t : SqlType} {cell : Option (Option Bytes)}
    (h : shown t cell = .ok .null) : ReadsNull t cell := by
  match cell with
  | none => exact .void (name_of_void (form_of_missing h))
  | some none => exact .null
  | some (some bs) =>
    obtain ⟨form, hform, hdecode⟩ := exists_form_of_toJson h fun _ h => by cases h
    exact readsNull_of_decode hform (mapError_eq_ok_iff.1 hdecode)

/-- What a row gives in a column panics for a reason only: it has no cell there, or one of octets
that do. -/
theorem panics_of_shown {t : SqlType} {cell : Option (Option Bytes)}
    (h : shown t cell = .error .panic) :
    cell = none ∨ ∃ bs form, cell = some (some bs) ∧ CellForm.ofType? t = some form ∧
      Panics t bs form := by
  match cell with
  | none => exact .inl rfl
  | some none =>
    rw [shown, Option.elim_some, toJson] at h
    split at h <;> cases h
  | some (some bs) =>
    obtain ⟨form, hform, hdecode⟩ := exists_form_of_toJson h fun _ h => by cases h
    obtain ⟨a, ha, hpanic⟩ := mapError_eq_error_iff.1 hdecode
    cases a with
    | error e => cases hpanic
    | panic => exact .inr ⟨bs, form, rfl, hform, panics_of_decode ha⟩

end Cell

/-! ## Rows -/

namespace Row

/-- A row shows as values, one for each column in their order. -/
def Shows (columns : List Column) (row : Row) (vs : List Json) : Prop :=
  vs.length = columns.length ∧ ∀ (i : Nat) (c : Column), columns[i]? = some c →
    ∃ v, vs[i]? = some v ∧ Cell.shown c.type row[i]? = .ok v

/-- A row does not show, and this is the leftmost column at which it does not. -/
def FailsAt (columns : List Column) (row : Row) (c : Column) (a : Abort Cell.Fault) : Prop :=
  ∃ left right : List Column, columns = left ++ c :: right ∧
    Cell.shown c.type row[left.length]? = .error a ∧
    ∀ (i : Nat) (c' : Column), left[i]? = some c' → ∃ v, Cell.shown c'.type row[i]? = .ok v

variable {columns : List Column} {row : Row}

/-- The first value is of the first cell, and the rest are of the cells after it. -/
theorem values_cons (c : Column) (columns : List Column) (row : Row) :
    values (c :: columns) row = (do
      let v ← (Cell.shown c.type row[0]?).mapError (Abort.map (error c))
      let vs ← values columns row.tail
      pure (v :: vs)) := by
  rw [values, List.head?_eq_getElem?]

/-- A row gives values just if it shows as these. -/
theorem values_eq_ok_iff {vs : List Json} : values columns row = .ok vs ↔ Shows columns row vs := by
  induction columns generalizing row vs with
  | nil => simp [values, Shows]
  | cons c columns ih =>
    rw [values_cons, bind_eq_ok_iff]
    constructor
    · rintro ⟨v, hv, h⟩
      obtain ⟨vs, hvs, h⟩ := bind_eq_ok_iff.1 h
      cases h
      obtain ⟨hlen, hcells⟩ := ih.1 hvs
      refine ⟨congrArg (· + 1) hlen, fun i c' hc => ?_⟩
      cases i with
      | zero =>
        cases hc
        exact ⟨v, rfl, mapError_eq_ok_iff.1 hv⟩
      | succ i =>
        obtain ⟨w, hw, hcell⟩ := hcells i c' hc
        exact ⟨w, hw, List.getElem?_tail ▸ hcell⟩
    · rintro ⟨hlen, hcells⟩
      obtain ⟨v, hv, hcell⟩ := hcells 0 c rfl
      cases vs with
      | nil => cases hv
      | cons w vs =>
        cases hv
        refine ⟨v, mapError_eq_ok_iff.2 hcell, bind_eq_ok_iff.2 ⟨vs, ih.2 ⟨?_, ?_⟩, rfl⟩⟩
        · simpa using hlen
        · intro i c' hc
          rw [List.getElem?_tail]
          exact hcells (i + 1) c' hc

/-- A row gives no values just if it fails at a column, and ends as the cell does there. -/
theorem values_eq_error_iff {e : Abort Error} :
    values columns row = .error e ↔ ∃ c a, FailsAt columns row c a ∧ e = a.map (error c) := by
  -- the leftmost column is the first to be shown; those behind it are a row of their own
  induction columns generalizing row with
  | nil => simp [values, FailsAt]
  | cons c columns ih =>
    rw [values_cons, bind_eq_error_iff]
    constructor
    · rintro (h | ⟨v, hv, h⟩)
      · obtain ⟨a, ha, rfl⟩ := mapError_eq_error_iff.1 h
        exact ⟨c, a, ⟨[], columns, rfl, ha, by simp⟩, rfl⟩
      · rcases bind_eq_error_iff.1 h with h | ⟨vs, -, h⟩
        · obtain ⟨c', a, ⟨left, right, rfl, ha, hleft⟩, rfl⟩ := ih.1 h
          refine ⟨c', a, ⟨c :: left, right, rfl, ?_, fun i d hd => ?_⟩, rfl⟩
          · rw [List.length_cons, ← List.getElem?_tail]
            exact ha
          · cases i with
            | zero =>
              cases hd
              exact ⟨v, mapError_eq_ok_iff.1 hv⟩
            | succ i =>
              rw [← List.getElem?_tail]
              exact hleft i d hd
        · cases h
    · rintro ⟨c', a, ⟨left, right, hcolumns, ha, hleft⟩, rfl⟩
      cases left with
      | nil =>
        obtain ⟨rfl, rfl⟩ := List.cons.inj hcolumns
        exact .inl (mapError_eq_error_iff.2 ⟨a, ha, rfl⟩)
      | cons d left =>
        obtain ⟨rfl, rfl⟩ := List.cons.inj hcolumns
        obtain ⟨v, hv⟩ := hleft 0 c rfl
        refine .inr ⟨v, mapError_eq_ok_iff.2 hv, bind_eq_error_iff.2 (.inl (ih.2 ?_))⟩
        refine ⟨c', a, ⟨left, right, rfl, ?_, fun i d hd => ?_⟩, rfl⟩
        · rw [List.getElem?_tail]
          exact ha
        · rw [List.getElem?_tail]
          exact hleft (i + 1) d hd

/-- A row with values for all its columns has none of a type that is not mapped. -/
theorem Shows.mapped {vs : List Json} (h : Shows columns row vs) :
    ∀ c ∈ columns, c.type.unwrap.Mapped := by
  intro c hc
  by_contra hmapped
  obtain ⟨i, hi⟩ := List.getElem?_of_mem hc
  obtain ⟨v, -, hv⟩ := h.2 i c hi
  rw [Cell.shown_of_not_mapped hmapped] at hv
  cases hv

/-- The rows of a reply that shows, under the names of the columns. -/
structure AllShow (columns : List Column) (rows : List Row) (rs : RowSet) : Prop where
  names : rs.columns = columns.map Column.name
  values : List.Forall₂ (Shows columns) rows rs.rows

/-- The leftmost column at which the earliest row that does not show fails, and how. -/
def FirstFails (columns : List Column) (rows : List Row) (c : Column) (a : Abort Cell.Fault) :
    Prop :=
  ∃ before row after, rows = before ++ row :: after ∧ FailsAt columns row c a ∧
    ∀ r ∈ before, ∃ vs, Shows columns r vs

/-- Rows are shown just if all of them show. -/
theorem rowSet_eq_ok_iff {rows : List Row} {rs : RowSet} :
    rowSet columns rows = .ok rs ↔ AllShow columns rows rs := by
  rw [rowSet, bind_eq_ok_iff]
  constructor
  · rintro ⟨vs, hvs, h⟩
    cases h
    exact ⟨rfl, (mapM_eq_ok_iff.1 hvs).imp fun _ _ => values_eq_ok_iff.1⟩
  · rintro ⟨hcolumns, hrows⟩
    refine ⟨rs.rows, mapM_eq_ok_iff.2 (hrows.imp fun _ _ => values_eq_ok_iff.2), ?_⟩
    rw [← hcolumns]
    rfl

/-- Rows are not shown just if one fails, and the first that does decides how. -/
theorem rowSet_eq_error_iff {rows : List Row} {e : Abort Error} :
    rowSet columns rows = .error e ↔
      ∃ c a, FirstFails columns rows c a ∧ e = a.map (error c) := by
  rw [rowSet, bind_eq_error_iff]
  constructor
  · rintro (h | ⟨vs, -, h⟩)
    · obtain ⟨before, row, after, hrows, hbefore, hrow⟩ := mapM_eq_error_iff.1 h
      obtain ⟨c, a, ha, rfl⟩ := values_eq_error_iff.1 hrow
      refine ⟨c, a, ⟨before, row, after, hrows, ha, fun r hr => ?_⟩, rfl⟩
      exact (hbefore r hr).imp fun _ => values_eq_ok_iff.1
    · cases h
  · rintro ⟨c, a, ⟨before, row, after, hrows, ha, hbefore⟩, rfl⟩
    refine .inl (mapM_eq_error_iff.2 ⟨before, row, after, hrows, fun r hr => ?_, ?_⟩)
    · exact (hbefore r hr).imp fun _ => values_eq_ok_iff.2
    · exact values_eq_error_iff.2 ⟨c, a, ha, rfl⟩

/-- Every record of rows that show has a value for each column. -/
theorem AllShow.records {rows : List Row} {rs : RowSet} (h : AllShow columns rows rs) :
    ∀ r ∈ rs.records, r.columns = columns.map Column.name ∧
      r.values.length = r.columns.length := by
  intro r hr
  obtain ⟨vs, hvs, rfl⟩ := List.mem_map.1 hr
  obtain ⟨i, hi, rfl⟩ := List.getElem_of_mem hvs
  obtain ⟨hlen, hall⟩ := List.forall₂_iff_get.1 h.values
  have hshows := (hall i (hlen ▸ hi) hi).1
  refine ⟨h.names, ?_⟩
  show rs.rows[i].length = rs.columns.length
  rw [h.names, List.length_map]
  exact hshows

end Row

end PgRole.Postgres
