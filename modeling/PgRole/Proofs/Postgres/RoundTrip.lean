import PgRole.Postgres.Cell
import PgRole.Proofs.Except
import PgRole.Proofs.Postgres.Scalar

/-!
# Cells come back as parameters

A cell that is shown as JSON and sent back for the type of its column is the value that the cell
decoded to (`Param.all_toJson`). It is so for a type with a form (`HasForm`): a scalar or a list of
scalars by its name, an enumeration, or a domain over such a type, to any depth. The two tables that
decide, one by which cells are read and one by which values are sent, go by names first, so an
enumeration or a domain must have a name of its own (`IsOwnName`). One name that is not built in
stands in the first table only; a domain may not have it either.

The values that JSON does not keep whole are left out by `Param.Portable`.
-/

namespace PgRole.Postgres

open Attempt

/-! ## Types with a form -/

/-- The scalar types by name. -/
def scalarTypes : List (String × Scalar) :=
  [("BOOL", .bool), ("INT2", .int2), ("INT4", .int4), ("INT8", .int8), ("FLOAT4", .float4),
    ("FLOAT8", .float8), ("NUMERIC", .numeric), ("TEXT", .text), ("VARCHAR", .text),
    ("NAME", .text), ("UNKNOWN", .text), ("UUID", .uuid), ("DATE", .date), ("TIME", .time),
    ("TIMESTAMP", .timestamp), ("TIMESTAMPTZ", .timestamptz)]

/-- The scalar types of which there are lists, by name. -/
def elementTypes : List (String × Scalar) :=
  [("BOOL", .bool), ("INT2", .int2), ("INT4", .int4), ("INT8", .int8), ("FLOAT4", .float4),
    ("FLOAT8", .float8), ("NUMERIC", .numeric), ("TEXT", .text), ("VARCHAR", .text),
    ("NAME", .text), ("UUID", .uuid), ("DATE", .date), ("TIMESTAMP", .timestamp),
    ("TIMESTAMPTZ", .timestamptz)]

/-- The names that stand for a type whatever is declared under them. -/
def builtinNames : List String :=
  scalarTypes.map Prod.fst ++
    ["BPCHAR", "OID", "\"CHAR\"", "MONEY", "XML", "BYTEA", "TIMETZ", "INTERVAL", "JSON", "JSONB",
      "VOID"]

/-- The name of text that compares in any case, a type that is declared and not built in. Cells are
read by this name too. -/
def caselessText : String := "CITEXT"

/-- A name that an enumeration or a domain has to itself: neither that of a built-in type nor the
mark of an unknown one, and not that of a list. -/
def IsOwnName (name : String) : Prop :=
  name ∉ builtinNames ∧ name ≠ "?" ∧ elementName? name = none

instance (name : String) : Decidable (IsOwnName name) := inferInstanceAs (Decidable (_ ∧ _ ∧ _))

/-- What the values of a type are: of a scalar type, lists of one, or the labels of an
enumeration. -/
inductive Form where
  | scalar (s : Scalar)
  | list (element : String) (s : Scalar)
  | label (typeName : String)

/-- The types that go both ways, each with its form. -/
inductive HasForm : SqlType → Form → Prop
  | scalar {name : String} {s : Scalar} (h : (name, s) ∈ scalarTypes) :
    HasForm (.plain name) (.scalar s)
  | list {element : String} {s : Scalar} (h : (element, s) ∈ elementTypes) :
    HasForm (.plain (element ++ "[]")) (.list element s)
  | enumeration {name : String} (h : IsOwnName name) : HasForm (.enumeration name) (.label name)
  | domain {name : String} {base : SqlType} {form : Form} (h : IsOwnName name)
    (hcaseless : name ≠ caselessText) (hbase : HasForm base form) : HasForm (.domain name base) form

namespace Form

/-- The value that octets decode to. -/
def decode : Form → Bytes → Reading Param
  | scalar s, bs => (s.decode bs).map (.scalar s)
  | list _ s, bs => (readList (fun _ => s.decode) bs).map (.list s)
  | label name, bs => orRefuse ((Bytes.text? bs).map (.label name))

/-- The form in which a cell is read. -/
def cell : Form → CellForm
  | scalar s => .scalar s
  | list _ s => .list s
  | label _ => .scalar .text

/-- The value that a JSON value gives. -/
def ofJson : Form → Json → Conversion.Result Param
  | scalar s, j => .scalar s <$> s.ofJson j
  | list _ s, .arr js => .list s <$> Param.items s js
  | list element _, j => .error (.notList element j)
  | label name, j => .ok (.label name (Conversion.text j))

end Form

/-! ## The two tables -/

theorem elementName?_append (element : String) :
    elementName? (element ++ "[]") = some element := by
  have hreverse : (element ++ "[]").toList.reverse = ']' :: '[' :: element.toList.reverse := by
    simp
  rw [elementName?, hreverse]
  simp

theorem scalarTypes_spec : ∀ e ∈ scalarTypes, elementName? e.1 = none ∧
    CellForm.single? e.1 = some (.scalar e.2) ∧ Scalar.ofName? e.1 = some e.2 := by
  decide

theorem elementTypes_spec : ∀ e ∈ elementTypes,
    e.1 ≠ "JSON" ∧ e.1 ≠ "JSONB" ∧ Scalar.ofElementName? e.1 = some e.2 := by
  decide

theorem Scalar.ofName?_eq_none {name : String} (h : name ∉ builtinNames) :
    Scalar.ofName? name = none := by
  unfold Scalar.ofName?
  split <;> first | rfl | exact absurd (by decide) h

theorem CellForm.single?_eq_none {name : String} (h : name ∉ builtinNames)
    (hcaseless : name ≠ caselessText) : CellForm.single? name = none := by
  unfold CellForm.single?
  split
  all_goals first
    | exact absurd (by decide) h
    | exact absurd rfl hcaseless
    | rw [Scalar.ofName?_eq_none h, Option.map_none]

/-- Cells of a type with a name of its own are not read by the name. -/
theorem CellForm.ofName?_eq_none {name : String} (h : IsOwnName name)
    (hcaseless : name ≠ caselessText) : CellForm.ofName? name = none := by
  unfold CellForm.ofName?
  rw [h.2.2]
  exact CellForm.single?_eq_none h.1 hcaseless

/-- Values for a type with a name of its own are not converted by the name. -/
theorem Param.byName?_eq_none {name : String} (h : IsOwnName name) : Param.byName? name = none := by
  obtain ⟨hbuiltin, hmark, helement⟩ := h
  unfold Param.byName?
  rw [helement]
  dsimp only
  rw [Scalar.ofName?_eq_none hbuiltin]
  dsimp only
  split
  all_goals first
    | rfl
    | exact absurd (by decide) hbuiltin
    | exact absurd rfl hmark

/-- A type with the name of a scalar is converted as the scalar. -/
theorem Param.byName?_scalar {name : String} {s : Scalar} (helement : elementName? name = none)
    (hscalar : Scalar.ofName? name = some s) :
    Param.byName? name = some fun j => .scalar s <$> s.ofJson j := by
  unfold Param.byName?
  rw [helement]
  dsimp only
  rw [hscalar]

theorem Param.byName?_list (element : String) :
    Param.byName? (element ++ "[]") = some (Param.listOf element) := by
  unfold Param.byName?
  rw [elementName?_append]

/-- A list of elements that are no documents has the form of their type. -/
theorem CellForm.ofName?_list {element : String} (hplain : element ≠ "JSON")
    (hversioned : element ≠ "JSONB") :
    CellForm.ofName? (element ++ "[]") = (Scalar.ofElementName? element).map .list := by
  unfold CellForm.ofName?
  rw [elementName?_append]
  split
  · rename_i h
    exact absurd (Option.some.inj h) hplain
  · rename_i h
    exact absurd (Option.some.inj h) hversioned
  · rename_i h
    rw [Option.some.inj h]
  · rename_i h
    cases h

/-- The cells of a type with a form are read in that form. -/
theorem HasForm.ofType?_eq {t : SqlType} {form : Form} (h : HasForm t form) :
    CellForm.ofType? t = some form.cell := by
  induction h with
  | scalar h =>
    obtain ⟨helement, hsingle, -⟩ := scalarTypes_spec _ h
    rw [CellForm.ofType?, CellForm.ofName?, helement]
    exact hsingle
  | list h =>
    obtain ⟨hplain, hversioned, helement⟩ := elementTypes_spec _ h
    rw [CellForm.ofType?, CellForm.ofName?_list hplain hversioned, helement]
    rfl
  | enumeration h =>
    rename_i name
    rw [CellForm.ofType?, if_neg h.2.1]
    by_cases hcaseless : name = caselessText
    · subst hcaseless
      decide
    · rw [CellForm.ofName?_eq_none h hcaseless]
      rfl
  | domain h hcaseless _ ih =>
    rw [CellForm.ofType?, if_neg h.2.1, CellForm.ofName?_eq_none h hcaseless, Option.none_or, ih]

/-- The values for a type with a form are converted in that form. -/
theorem HasForm.ofType_eq {t : SqlType} {form : Form} (h : HasForm t form) (j : Json) :
    Param.ofType t j = form.ofJson j := by
  induction h with
  | scalar h =>
    obtain ⟨helement, -, hscalar⟩ := scalarTypes_spec _ h
    rw [Param.ofType, Param.byName?_scalar helement hscalar]
    rfl
  | list h =>
    obtain ⟨-, -, helement⟩ := elementTypes_spec _ h
    rw [Param.ofType, Param.byName?_list, Option.getD_some]
    unfold Param.listOf
    rw [helement]
    cases j <;> rfl
  | enumeration h =>
    rw [Param.ofType, Param.byName?_eq_none h]
    rfl
  | domain h _ _ ih =>
    rw [Param.ofType, Param.byName?_eq_none h]
    exact ih

/-! ## Lists -/

/-- The elements of a list are each read from octets. -/
theorem exists_of_mem_readElements {α : Type} {read : Bytes → Reading α} {n : Nat} {bs : Bytes}
    {vs : List (Option α)} (h : readElements read n bs = .ok vs) :
    ∀ v, some v ∈ vs → ∃ cell, read cell = .ok v := by
  induction n generalizing bs vs with
  | zero =>
    cases h
    intro v hv
    cases hv
  | succ n ih =>
    obtain ⟨⟨size, bs⟩, -, h⟩ := bind_eq_ok_iff.1 h
    dsimp only at h
    -- a null has no octets, and nothing is read for it
    split_ifs at h
    · obtain ⟨r, hr, h⟩ := bind_eq_ok_iff.1 h
      cases h
      intro v hv
      rcases List.mem_cons.1 hv with hv | hv
      · cases hv
      · exact ih hr v hv
    · obtain ⟨⟨cell, bs⟩, -, h⟩ := bind_eq_ok_iff.1 h
      obtain ⟨w, hw, h⟩ := bind_eq_ok_iff.1 h
      obtain ⟨r, hr, h⟩ := bind_eq_ok_iff.1 h
      cases h
      intro v hv
      rcases List.mem_cons.1 hv with hv | hv
      · cases hv
        exact ⟨cell, hw⟩
      · exact ih hr v hv

/-- An element of a list is what octets of its own are read as. -/
theorem exists_of_mem_readList {α : Type} {read : Bytes → Reading α} {bs : Bytes}
    {vs : List (Option α)} (h : readList (fun _ => read) bs = .ok vs) :
    ∀ v, some v ∈ vs → ∃ cell, read cell = .ok v := by
  obtain ⟨⟨dimensions, bs⟩, -, h⟩ := bind_eq_ok_iff.1 h
  dsimp only at h
  split_ifs at h
  · cases h
    intro v hv
    cases hv
  · obtain ⟨_, -, h⟩ := bind_eq_ok_iff.1 h
    obtain ⟨_, -, h⟩ := bind_eq_ok_iff.1 h
    obtain ⟨_, -, h⟩ := bind_eq_ok_iff.1 h
    obtain ⟨_, -, h⟩ := bind_eq_ok_iff.1 h
    split_ifs at h
    exact exists_of_mem_readElements h

namespace Param

/-- The values of which JSON keeps all. -/
def Portable : Param → Prop
  | scalar s v => s.Portable v
  | list s vs => ∀ v, some v ∈ vs → s.Portable v
  | _ => True

/-- Parameters that hold the same value. -/
inductive Same : Param → Param → Prop
  | scalar {s : Scalar} {v w : s.Value} (h : s.Same v w) : Same (.scalar s v) (.scalar s w)
  | list {s : Scalar} {vs ws : List (Option s.Value)}
    (h : List.Forall₂ (Option.Rel s.Same) vs ws) : Same (.list s vs) (.list s ws)
  | label (typeName text : String) : Same (.label typeName text) (.label typeName text)

/-- A list shown as JSON is read back element by element, nulls as nulls. -/
theorem items_listJson (s : Scalar) {vs : List (Option s.Value)}
    (hdecoded : ∀ v, some v ∈ vs → ∃ bs, s.decode bs = .ok v)
    (hportable : ∀ v, some v ∈ vs → s.Portable v) :
    ∃ ws, items s (vs.map fun v => (v.map s.toJson).getD .null) = .ok ws ∧
      List.Forall₂ (Option.Rel s.Same) ws vs := by
  induction vs with
  | nil => exact ⟨[], rfl, .nil⟩
  | cons v vs ih =>
    obtain ⟨ws, hws, hsame⟩ := ih (fun v hv => hdecoded v (List.mem_cons_of_mem _ hv))
      (fun v hv => hportable v (List.mem_cons_of_mem _ hv))
    cases v with
    | none =>
      refine ⟨none :: ws, ?_, .cons .none hsame⟩
      rw [List.map_cons, items, hws]
      rfl
    | some v =>
      obtain ⟨bs, hv⟩ := hdecoded v List.mem_cons_self
      obtain ⟨w, hread, hw, hnull⟩ := s.ofJson_toJson hv (hportable v List.mem_cons_self)
      refine ⟨some w :: ws, ?_, .cons (.some hw) hsame⟩
      rw [List.map_cons, Option.map_some, Option.getD_some, items, hnull, hread, hws]
      rfl

/-! ## Cells -/

/-- What a form makes of its own JSON is what the octets decode to. -/
theorem ofJson_cell (column : SqlType) {form : Form} {bs : Bytes} {p : Param}
    (hp : form.decode bs = .ok p) (hportable : p.Portable) :
    ∃ v q, Cell.decode column bs form.cell = .ok v ∧ v.isNull = false ∧
      form.ofJson v = .ok q ∧ q.Same p := by
  cases form with
  | scalar s =>
    obtain ⟨v, hv, rfl⟩ := map_eq_ok_iff.1 hp
    obtain ⟨w, hread, hsame, hnull⟩ := s.ofJson_toJson hv hportable
    refine ⟨s.toJson v, .scalar s w, ?_, hnull, ?_, .scalar hsame⟩
    · rw [Form.cell, Cell.decode, hv, Except.map]
    · rw [Form.ofJson, hread]
      rfl
  | list element s =>
    obtain ⟨vs, hvs, rfl⟩ := map_eq_ok_iff.1 hp
    obtain ⟨ws, hread, hsame⟩ := items_listJson s (exists_of_mem_readList hvs) hportable
    refine ⟨Cell.listJson s.toJson vs, .list s ws, ?_, rfl, ?_, .list hsame⟩
    · rw [Form.cell, Cell.decode, hvs, Except.map]
    · rw [Cell.listJson, Form.ofJson, hread]
      rfl
  | label typeName =>
    obtain ⟨text, htext, rfl⟩ := Option.map_eq_some_iff.1 (orRefuse_eq_ok_iff.1 hp)
    refine ⟨.str text, .label typeName text, ?_, rfl, rfl, .label typeName text⟩
    rw [Form.cell, Cell.decode, Scalar.decode, htext]
    rfl

theorem ofJson_of_isNull {v : Json} (hnull : v.isNull = false) (t : SqlType) :
    ofJson (some t) v = ofType t v := by
  cases v with
  | null => cases hnull
  | _ => rfl

theorem all_singleton {t : SqlType} {v : Json} (hnull : v.isNull = false) {p : Param}
    (h : ofType t v = .ok p) : all [t] [v] = .ok [p] := by
  rw [all, allFrom, List.head?_cons, ofJson_of_isNull hnull, h]
  rfl

/-- A cell shown as JSON and sent back for its type is the value that it decodes to, and null is
null. -/
theorem all_toJson {t : SqlType} {form : Form} (ht : HasForm t form) :
    (Cell.toJson t none = .ok .null ∧ all [t] [.null] = .ok [.null]) ∧
      ∀ {bs : Bytes} {p : Param}, form.decode bs = .ok p → p.Portable →
        ∃ v q, Cell.toJson t (some bs) = .ok v ∧ all [t] [v] = .ok [q] ∧ q.Same p := by
  constructor
  · rw [Cell.toJson, ht.ofType?_eq]
    exact ⟨rfl, rfl⟩
  · intro bs p hp hportable
    obtain ⟨v, q, hcell, hnull, hread, hsame⟩ := ofJson_cell t hp hportable
    refine ⟨v, q, ?_, all_singleton hnull ?_, hsame⟩
    · rw [Cell.toJson, ht.ofType?_eq]
      dsimp only
      rw [hcell]
      rfl
    · rw [ht.ofType_eq, hread]

/-- A list of decimals with a null in it, of a domain over a domain. -/
theorem all_toJson_nested :
    let t : SqlType := .domain "prices" (.domain "amounts" (.plain "NUMERIC[]"))
    let bs : Bytes := listBytes 1700 [some [0, 2, 0, 0, 0, 0, 0, 2, 0, 1, 19, 136], none]
    let p : Param := .list .numeric [some ⟨false, 150, 2, by decide⟩, none]
    HasForm t (.list "NUMERIC" .numeric) ∧ Form.decode (.list "NUMERIC" .numeric) bs = .ok p ∧
      p.Portable ∧
      ∃ v q, Cell.toJson t (some bs) = .ok v ∧ all [t] [v] = .ok [q] ∧ q.Same p := by
  intro t bs p
  have hbase : HasForm (.plain ("NUMERIC" ++ "[]")) (.list "NUMERIC" .numeric) :=
    .list (by decide)
  have ht : HasForm t (.list "NUMERIC" .numeric) :=
    .domain (by decide) (by decide) (.domain (by decide) (by decide) hbase)
  have hlist : readList (fun _ => Scalar.numeric.decode) bs =
      .ok [some ⟨false, 150, 2, by decide⟩, none] := toOption_eq_some_iff.1 (by decide +kernel)
  have hp : Form.decode (.list "NUMERIC" .numeric) bs = .ok p := by
    rw [Form.decode, hlist]
    rfl
  have hportable : p.Portable := by
    intro v hv
    have hv : some v = some ⟨false, 150, 2, by decide⟩ := by simpa using hv
    cases hv
    exact (by decide : 2 ≤ Decimal.maxScale)
  exact ⟨ht, hp, hportable, (all_toJson ht).2 hp hportable⟩

/-- Padded text goes by a name under which no cell is read; a decimal of 29 places comes back with
28; a number of a domain with the name of caseless text is read as a text, and is no number then. -/
theorem not_all_toJson :
    let bs : Bytes := [0, 1, 255, 255, 0, 0, 0, 29, 3, 232]
    let d : Decimal := ⟨false, 10 ^ 28, 29, by decide⟩
    let e : Decimal := ⟨false, 10 ^ 27, 28, by decide⟩
    let t : SqlType := .domain caselessText (.plain "INT4")
    let digits : Bytes := [0, 0, 0, 5]
    let text := "\x00\x00\x00\x05"
    Cell.toJson (Catalog.resolve [] "BPCHAR") (some [97, 98]) =
        .error (.error (.unsupported "CHAR")) ∧
      (Scalar.numeric.decode bs = .ok d ∧
        Cell.toJson (.plain "NUMERIC") (some bs) = .ok (.str d.text) ∧
        all [.plain "NUMERIC"] [.str d.text] = .ok [.scalar .numeric e] ∧ ¬ e.Same d) ∧
      Scalar.int4.decode digits = .ok (5 : Int32) ∧
        Cell.toJson t (some digits) = .ok (.str text) ∧
        all [t] [.str text] = .error (error 1 (.unreadable text .integer)) := by
  intro bs d e t digits text
  have hname : CellForm.ofType? (Catalog.resolve [] "BPCHAR") = none := by decide
  have hunsupported : CellForm.unsupportedName (Catalog.resolve [] "BPCHAR") = "CHAR" := by decide
  have hnumeric : HasForm (.plain "NUMERIC") (.scalar .numeric) := .scalar (by decide)
  have hfive : Scalar.int4.decode digits = .ok (5 : Int32) :=
    toOption_eq_some_iff.1 (by decide +kernel)
  have hd : Scalar.numeric.decode bs = .ok d := toOption_eq_some_iff.1 (by decide +kernel)
  have he : Decimal.read? (Text.trim d.text) = some e := by decide +kernel
  have htext : CellForm.ofType? t = some (.scalar .text) := by decide
  have hdigits : Bytes.text? digits = some text := by decide +kernel
  have hread : Conversion.readInt64? text = none := by decide +kernel
  refine ⟨?_, ⟨hd, ?_, all_singleton rfl ?_, by decide⟩, hfive, ?_, ?_⟩
  · rw [Cell.toJson, hname, hunsupported]
  · rw [Cell.toJson, hnumeric.ofType?_eq]
    dsimp only [Form.cell]
    rw [Cell.decode, hd]
    rfl
  · rw [hnumeric.ofType_eq, Form.ofJson, Scalar.ofJson, Conversion.decimal]
    dsimp only
    rw [he]
    rfl
  · rw [Cell.toJson, htext]
    dsimp only
    rw [Cell.decode, Scalar.decode, hdigits]
    rfl
  · -- no value is bound by this name, so the base of the domain decides, and the text is no numeral
    have hint : HasForm (.plain "INT4") (.scalar .int4) := .scalar (by decide)
    have hvalue : ofType t (.str text) = .error (.unreadable text .integer) := by
      rw [ofType, byName?_eq_none (by decide), Option.getD_none, hint.ofType_eq, Form.ofJson,
        Scalar.ofJson, Conversion.integerWithin, Conversion.integer, hread]
      rfl
    rw [all, allFrom, List.head?_cons, ofJson_of_isNull rfl, hvalue]
    rfl

end Param

end PgRole.Postgres
