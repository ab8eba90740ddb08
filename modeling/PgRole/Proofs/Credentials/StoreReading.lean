import PgRole.Credentials.JsonForm
import PgRole.Proofs.Keyed

/-!
# Stores read from documents

Which documents are profiles and stores, and of what. A profile is an object that has each field
once, whatever else it has, or the list of the fields (`Profile.ofDocument?_eq_some_iff`). A store
is an object of profiles; what is no profile fails it (`Store.ofDocument?_eq_some_iff`), and of
several with one role the last counts (`Store.get?_ofList_of_forms`).
-/

namespace PgRole

open Json

/-- A number is an unsigned integer of 64 bits just if it is one that was written so. -/
theorem Json.Number.toUInt64?_eq_some_iff {x : Number} {n : UInt64} :
    x.toUInt64? = some n ↔ x = .ofUInt64 n := by
  constructor
  · intro h
    cases x with
    | float => cases h
    | int i hi =>
      rw [Number.toUInt64?] at h
      split_ifs at h with hpos
      obtain rfl := Option.some.inj h
      have hlt : i.toNat < 2 ^ 64 := by
        have := hi.2
        simp only [maxInt] at this
        omega
      simp only [Number.ofUInt64, Number.int.injEq, UInt64.toNat_ofNat_of_lt' hlt]
      omega
  · rintro rfl
    simp [Number.toUInt64?, Number.ofUInt64]

namespace Profile

variable {p : Profile} {f : Field} {s : String} {d : Document}
  {ms : List (Option String × Document)} {ts : List (Field × String)}

/-- A field has the name that is its label. -/
theorem fieldNamed?_eq_some_iff {name : String} : fieldNamed? name = some f ↔ name = f.label := by
  constructor
  · intro h
    have hlabel := List.find?_some (p := fun g : Field => g.label == name) h
    exact (beq_iff_eq.1 hlabel).symm
  · rintro rfl
    cases f <;> decide

/-- What a document must be to be a text of a field: a string, or for the port an unsigned integer
of 64 bits, which stands for its digits. -/
inductive IsText (f : Field) : String → Document → Prop where
  | str (s : String) : IsText f s (.str (some s))
  | num {l : Literal} {n : UInt64} (hf : f = .port) (hl : l.value? = some (.ofUInt64 n)) :
    IsText f (Text.natText n.toNat) (.num l)

/-- A document gives the text of a field just if it stands for the text. -/
theorem fieldText?_eq_some_iff : fieldText? f d = some s ↔ IsText f s d := by
  constructor
  · intro h
    unfold fieldText? at h
    split at h
    · obtain rfl := h
      exact .str s
    · split_ifs at h with hf
      obtain ⟨n, hn, rfl⟩ := Option.map_eq_some_iff.1 h
      obtain ⟨x, hx, hn⟩ := Option.bind_eq_some_iff.1 hn
      rw [Number.toUInt64?_eq_some_iff.1 hn] at hx
      exact .num hf hx
    · cases h
  · intro h
    cases h with
    | str => rfl
    | num hf hl =>
      rw [fieldText?, if_pos hf, hl, Option.bind_some, Number.toUInt64?_eq_some_iff.2 rfl]
      rfl

/-! ## The members of an object -/

/-- Whether a member has the name of a field. -/
def isNamed (f : Field) (m : Option String × Document) : Bool := m.1 == some f.label

theorem isNamed_iff {m : Option String × Document} : isNamed f m ↔ m.1 = some f.label :=
  beq_iff_eq

/-- A member has the name of no field, or of one. -/
theorem not_named_or (name : String) :
    fieldNamed? name = none ∧ (∀ f d, isNamed f (some name, d) = false) ∨
      ∃ f : Field, name = f.label := by
  cases h : fieldNamed? name with
  | none =>
    refine .inl ⟨rfl, fun f d => Bool.eq_false_iff.2 fun hf => ?_⟩
    rw [fieldNamed?_eq_some_iff.2 (Option.some.inj (isNamed_iff.1 hf))] at h
    cases h
  | some f => exact .inr ⟨f, fieldNamed?_eq_some_iff.1 h⟩

theorem memberTexts?_other {name : String} (h : fieldNamed? name = none) :
    memberTexts? ((some name, d) :: ms) = memberTexts? ms := by
  simp [memberTexts?, h]

theorem memberTexts?_field : memberTexts? ((some f.label, d) :: ms) =
    (fieldText? f d).bind fun s => (memberTexts? ms).map ((f, s) :: ·) := by
  simp [memberTexts?, fieldNamed?_eq_some_iff.2 rfl, Option.map_eq_bind]

theorem isNamed_label_iff {g : Field} : isNamed g (some f.label, d) ↔ f = g := by
  rw [isNamed_iff, Option.some.injEq]
  constructor
  · cases f <;> cases g <;> simp [Field.label]
  · rintro rfl
    rfl

/-- Members are read if each has a name, and a text if this is the name of a field. -/
theorem exists_memberTexts?_iff : (∃ ts, memberTexts? ms = some ts) ↔
    ∀ m ∈ ms, m.1 ≠ none ∧ ∀ f, isNamed f m → ∃ s, IsText f s m.2 := by
  induction ms with
  | nil => simp [memberTexts?]
  | cons m ms ih =>
    rw [List.forall_mem_cons, ← ih]
    obtain ⟨_ | name, d⟩ := m
    · simp [memberTexts?]
    · rcases not_named_or name with ⟨hnone, hother⟩ | ⟨f, rfl⟩
      · simp [memberTexts?_other hnone, hother]
      · simp [memberTexts?_field, isNamed_label_iff, ← fieldText?_eq_some_iff,
          Option.bind_eq_some_iff]

/-- The members of a field and their texts go together. -/
theorem filter_of_memberTexts? (h : memberTexts? ms = some ts) (f : Field) :
    List.Forall₂ (fun m t => IsText f t.2 m.2) (ms.filter (isNamed f)) (ts.filter (·.1 == f)) := by
  induction ms generalizing ts with
  | nil =>
    cases h
    exact .nil
  | cons m ms ih =>
    obtain ⟨_ | name, d⟩ := m
    · cases h
    · rcases not_named_or name with ⟨hnone, hother⟩ | ⟨g, rfl⟩
      · rw [memberTexts?_other hnone] at h
        rw [List.filter_cons_of_neg (by simp [hother])]
        exact ih h
      · rw [memberTexts?_field] at h
        obtain ⟨s, hs, h⟩ := Option.bind_eq_some_iff.1 h
        obtain ⟨ts, hts, rfl⟩ := Option.map_eq_some_iff.1 h
        by_cases hg : g = f
        · subst hg
          rw [List.filter_cons_of_pos (isNamed_label_iff.2 rfl), List.filter_cons_of_pos (by simp)]
          exact .cons (fieldText?_eq_some_iff.1 hs) (ih hts)
        · rw [List.filter_cons_of_neg (by simpa [isNamed_label_iff] using hg),
            List.filter_cons_of_neg (by simpa using hg)]
          exact ih hts

/-! ## Profiles -/

/-- A field has a text if it is given just once. -/
theorem onlyText?_eq_some_iff : onlyText? ts f = some s ↔
    ∃ t, ts.filter (·.1 == f) = [t] ∧ t.2 = s := by
  unfold onlyText?
  split
  · rename_i t ht
    simp [ht]
  · rename_i hnot
    simp only [reduceCtorEq, false_iff]
    rintro ⟨t, ht, -⟩
    exact hnot t ht

theorem ofTexts?_eq_some_iff : ofTexts? ts = some p ↔ ∀ f, onlyText? ts f = some (p.get f) := by
  obtain ⟨name, user, password, host, port⟩ := p
  simp only [ofTexts?, bind, Option.bind_eq_some_iff, pure, Option.some.injEq, mk.injEq]
  constructor
  · rintro ⟨_, hname, _, huser, _, hpassword, _, hhost, _, hport, rfl, rfl, rfl, rfl, rfl⟩ f
    cases f <;> assumption
  · intro h
    exact ⟨name, h .name, user, h .user, password, h .password, host, h .host, port, h .port,
      rfl, rfl, rfl, rfl, rfl⟩

/-- A document is the form of a profile: an object with names throughout that has each field once,
or the list of the fields. -/
inductive IsForm (p : Profile) : Document → Prop where
  | obj {ms : List (Option String × Document)} (hnames : ∀ m ∈ ms, m.1 ≠ none)
    (hfields : ∀ f, ∃ d, ms.filter (isNamed f) = [(some f.label, d)] ∧ IsText f (p.get f) d) :
    IsForm p (.obj ms)
  | arr {items : List Document} (h : List.Forall₂ (fun f d => IsText f (p.get f) d) fields items) :
    IsForm p (.arr items)

/-- An object is a profile if its members give every field just once. -/
theorem ofDocument?_obj_iff : ofDocument? (.obj ms) = some p ↔ IsForm p (.obj ms) := by
  rw [ofDocument?, Option.bind_eq_some_iff]
  constructor
  · rintro ⟨ts, hts, hp⟩
    refine .obj (fun m hm => (exists_memberTexts?_iff.1 ⟨ts, hts⟩ m hm).1) fun f => ?_
    obtain ⟨t, ht, hs⟩ := onlyText?_eq_some_iff.1 (ofTexts?_eq_some_iff.1 hp f)
    have hfilter := filter_of_memberTexts? hts f
    rw [ht, List.forall₂_cons_right_iff] at hfilter
    obtain ⟨m, ms', hm, hnil, hms⟩ := hfilter
    rw [List.forall₂_nil_right_iff.1 hnil] at hms
    have hname : isNamed f m := List.of_mem_filter (hms ▸ List.mem_singleton_self m)
    refine ⟨m.2, ?_, hs ▸ hm⟩
    rw [hms, ← isNamed_iff.1 hname]
  · rintro (⟨hnames, hfields⟩ | -)
    obtain ⟨ts, hts⟩ := exists_memberTexts?_iff.2 fun m hm => ⟨hnames m hm, fun f hf => by
      obtain ⟨d, hd, htext⟩ := hfields f
      have hmem : m ∈ ms.filter (isNamed f) := List.mem_filter.2 ⟨hm, hf⟩
      rw [hd, List.mem_singleton] at hmem
      exact ⟨p.get f, hmem ▸ htext⟩⟩
    refine ⟨ts, hts, ofTexts?_eq_some_iff.2 fun f => onlyText?_eq_some_iff.2 ?_⟩
    obtain ⟨d, hd, htext⟩ := hfields f
    have hfilter := filter_of_memberTexts? hts f
    rw [hd, List.forall₂_cons_left_iff] at hfilter
    obtain ⟨t, ts', ht, hnil, hts'⟩ := hfilter
    rw [List.forall₂_nil_left_iff.1 hnil] at hts'
    refine ⟨t, hts', Option.some.inj ?_⟩
    rw [← fieldText?_eq_some_iff.2 ht, fieldText?_eq_some_iff.2 htext]

/-- A list is a profile if it has the five fields in their order. -/
theorem ofDocument?_arr_iff {items : List Document} :
    ofDocument? (.arr items) = some p ↔ IsForm p (.arr items) := by
  constructor
  · intro h
    unfold ofDocument? at h
    split at h
    · rename_i heq
      cases heq
    · rename_i name user password host port heq
      cases heq
      simp only [bind, Option.bind_eq_some_iff, pure, Option.some.injEq,
        fieldText?_eq_some_iff] at h
      obtain ⟨_, hname, _, huser, _, hpassword, _, hhost, _, hport, rfl⟩ := h
      exact .arr (.cons hname (.cons huser (.cons hpassword (.cons hhost (.cons hport .nil)))))
    · cases h
  · rintro (- | h)
    unfold fields at h
    rcases h with _ | ⟨hname, _ | ⟨huser, _ | ⟨hpassword, _ | ⟨hhost, _ | ⟨hport, _ | _⟩⟩⟩⟩⟩
    rw [ofDocument?]
    simp only [fieldText?_eq_some_iff.2 hname, fieldText?_eq_some_iff.2 huser,
      fieldText?_eq_some_iff.2 hpassword, fieldText?_eq_some_iff.2 hhost,
      fieldText?_eq_some_iff.2 hport, bind, Option.bind]
    rfl

theorem ofDocument?_eq_some_iff : ofDocument? d = some p ↔ IsForm p d := by
  cases d with
  | obj ms => exact ofDocument?_obj_iff
  | arr items => exact ofDocument?_arr_iff
  | _ => exact ⟨fun h => (by cases h), fun h => (by cases h)⟩

end Profile

/-! ## Stores -/

namespace Store

/-- A member is the form of an entry. -/
def IsEntryForm (m : Option String × Document) (e : String × Profile) : Prop :=
  m.1 = some e.1 ∧ Profile.IsForm e.2 m.2

variable {s : Store} {ms : List (Option String × Document)} {es : List (String × Profile)}

/-- Members are the entries of a store, one by one. -/
theorem entries?_eq_some_iff : entries? ms = some es ↔ List.Forall₂ IsEntryForm ms es := by
  induction ms generalizing es with
  | nil => simp [entries?, eq_comm]
  | cons m ms ih =>
    obtain ⟨name, d⟩ := m
    simp only [entries?, bind, Option.bind_eq_some_iff, pure, Option.some.injEq,
      List.forall₂_cons_left_iff, ih, IsEntryForm, Profile.ofDocument?_eq_some_iff]
    constructor
    · rintro ⟨role, rfl, p, hp, es, hes, rfl⟩
      exact ⟨(role, p), es, ⟨rfl, hp⟩, hes, rfl⟩
    · rintro ⟨⟨role, p⟩, es, ⟨rfl, hp⟩, hes, rfl⟩
      exact ⟨role, rfl, p, hp, es, hes, rfl⟩

theorem ofDocument?_eq_some_iff {d : Document} : ofDocument? d = some s ↔
    ∃ ms es, d = .obj ms ∧ List.Forall₂ IsEntryForm ms es ∧ Keyed.ofList es = s := by
  cases d with
  | obj ms => simp [ofDocument?, entries?_eq_some_iff]
  | _ => simp [ofDocument?]

theorem exists_isForm_of_mem (h : List.Forall₂ IsEntryForm ms es) {m : Option String × Document}
    (hm : m ∈ ms) : ∃ p, Profile.IsForm p m.2 := by
  induction h with
  | nil => cases hm
  | cons hform _ ih =>
    rcases List.mem_cons.1 hm with rfl | hm
    · exact ⟨_, hform.2⟩
    · exact ih hm

/-- A role is found among the entries where it is found among the members. -/
theorem find?_of_forms (h : List.Forall₂ IsEntryForm ms es) (role : String) :
    (es.find? fun e => e.1 == role).map (·.2) =
      (ms.find? fun m => m.1 == some role).bind fun m => Profile.ofDocument? m.2 := by
  induction h with
  | nil => rfl
  | @cons m e ms es hm _ ih =>
    obtain ⟨hname, hform⟩ := hm
    rw [List.find?_cons, List.find?_cons, hname, Option.some_beq_some]
    by_cases hrole : e.1 = role
    · simp [hrole, Profile.ofDocument?_eq_some_iff.2 hform]
    · rw [beq_false_of_ne hrole, ih]

/-- Of several members with one role the last counts. -/
theorem get?_ofList_of_forms (h : List.Forall₂ IsEntryForm ms es) {role : String} {p : Profile} :
    (Keyed.ofList es).get? role = some p ↔ ∃ before d after,
      ms = before ++ (some role, d) :: after ∧ (∀ m ∈ after, m.1 ≠ some role) ∧
        Profile.IsForm p d := by
  rw [Keyed.get?_ofList, find?_of_forms (List.forall₂_reverse_iff.2 h), Option.bind_eq_some_iff]
  simp only [Profile.ofDocument?_eq_some_iff, List.find?_eq_some_iff_append]
  constructor
  · rintro ⟨⟨name, d⟩, ⟨hname, after, before, hms, hafter⟩, hform⟩
    obtain rfl : name = some role := by simpa using hname
    refine ⟨before.reverse, d, after.reverse, ?_, fun m hm => ?_, hform⟩
    · simpa using List.reverse_eq_iff.1 hms
    · simpa using hafter m (by simpa using hm)
  · rintro ⟨before, d, after, rfl, hafter, hform⟩
    refine ⟨(some role, d), ⟨by simp, after.reverse, before.reverse, by simp, fun m hm => ?_⟩,
      hform⟩
    simpa using hafter m (by simpa using hm)

end Store

end PgRole
