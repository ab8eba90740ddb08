import PgRole.Proofs.Credentials.Segments

/-!
# The fields of a profile in place

The fields of a profile are resolved one after another, each in its place, up to the first that
refers to a variable that is not set. The fields in front of it have then become what their texts
become, and it and all behind it are as before (`resolveFields_eq_some_iff`). The variables change
where a field with a reference is reached, and once only (`snd_resolveFields`). A profile without
references stays as it is, whatever is set (`resolveFields_of_plain`).

* `Credentials.Variables.resolveProfile_exact`: what becomes of a profile and of the variables, and
  when a second time changes nothing.
-/

namespace PgRole

open Credentials

namespace Profile

variable {env : Environment} {p q : Profile} {f : Field} {names : List String} {fs : List Field}

theorem set_get (p : Profile) (f : Field) : p.set f (p.get f) = p := by
  cases f <;> rfl

/-- Where each field of a list has become what its text becomes, and the others are as before, the
list was resolved. -/
theorem resolveFields_of_expands (hfs : fs.Nodup)
    (hin : ∀ f ∈ fs, Expands env (p.get f) (q.get f)) (hout : ∀ f, f ∉ fs → q.get f = p.get f) :
    resolveFields env fs p = (q, none) := by
  induction fs generalizing p with
  | nil =>
    have hsame : p = q := ext_get fun f => (hout f (by simp)).symm
    rw [resolveFields, hsame]
  | cons f fs ih =>
    obtain ⟨hf, hfs⟩ := List.nodup_cons.1 hfs
    have hne : ∀ g ∈ fs, f ≠ g := by
      rintro g hg rfl
      exact hf hg
    rw [resolveFields, resolve_eq_ok_iff.2 (hin f List.mem_cons_self)]
    refine ih hfs (fun g hg => ?_) fun g hg => ?_
    · rw [get_set_of_ne p _ (hne g hg)]
      exact hin g (List.mem_cons_of_mem _ hg)
    · by_cases hfg : f = g
      · rw [← hfg, get_set]
      · rw [get_set_of_ne p _ hfg]
        exact hout g (by simp [hg, Ne.symm hfg])

/-- A list of fields is resolved when each has become what its text becomes, and the others are as
before. -/
theorem resolveFields_eq_none_iff (hfs : fs.Nodup) : resolveFields env fs p = (q, none) ↔
    (∀ f ∈ fs, Expands env (p.get f) (q.get f)) ∧ ∀ f, f ∉ fs → q.get f = p.get f := by
  constructor
  · intro h
    obtain ⟨hin, hout⟩ := get_resolveFields hfs h
    exact ⟨fun f hf => resolve_eq_ok_iff.1 (hin f hf), hout⟩
  · rintro ⟨hin, hout⟩
    exact resolveFields_of_expands hfs hin hout

/-- Fields are resolved up to the first that cannot be, and the others after them. -/
theorem resolveFields_append (before after : List Field) (p : Profile) :
    resolveFields env (before ++ after) p = match resolveFields env before p with
      | (q, none) => resolveFields env after q
      | failed => failed := by
  induction before generalizing p with
  | nil => rfl
  | cons f before ih =>
    rw [List.cons_append, resolveFields, resolveFields]
    cases Credentials.resolve env (p.get f) with
    | ok s => exact ih (p.set f s)
    | error names => rfl

/-- A field that cannot be resolved leaves a profile in which those in front of it are resolved. -/
theorem exists_of_resolveFields (h : resolveFields env fs p = (q, some (f, names))) :
    ∃ before after, fs = before ++ f :: after ∧ resolveFields env before p = (q, none) ∧
      Credentials.resolve env (q.get f) = .error names := by
  induction fs generalizing p with
  | nil => cases h
  | cons g fs ih =>
    rw [resolveFields] at h
    cases hg : Credentials.resolve env (p.get g) with
    | error unset =>
      rw [hg] at h
      cases h
      exact ⟨[], fs, rfl, rfl, hg⟩
    | ok s =>
      rw [hg] at h
      obtain ⟨before, after, rfl, hbefore, hf⟩ := ih h
      refine ⟨g :: before, after, rfl, ?_, hf⟩
      rw [resolveFields, hg]
      exact hbefore

/-- The fields of a list are resolved up to the first with variables that are not set: it, those
behind it and those that are not in the list are as before. -/
theorem resolveFields_eq_some_iff (hfs : fs.Nodup) :
    resolveFields env fs p = (q, some (f, names)) ↔ ∃ before after, fs = before ++ f :: after ∧
      (∀ g ∈ before, Expands env (p.get g) (q.get g)) ∧ (∀ g, g ∉ before → q.get g = p.get g) ∧
      Lacks env (p.get f) names ∧ names ≠ [] := by
  constructor
  · intro h
    obtain ⟨before, after, rfl, hbefore, hf⟩ := exists_of_resolveFields h
    obtain ⟨hbefores, -, hapart⟩ := List.nodup_append.1 hfs
    obtain ⟨hin, hout⟩ := (resolveFields_eq_none_iff hbefores).1 hbefore
    have hnot : f ∉ before := fun hmem => hapart f hmem f List.mem_cons_self rfl
    rw [hout f hnot, resolve_eq_error_iff] at hf
    exact ⟨before, after, rfl, hin, hout, hf⟩
  · rintro ⟨before, after, rfl, hin, hout, hf⟩
    obtain ⟨hbefores, -, hapart⟩ := List.nodup_append.1 hfs
    have hnot : f ∉ before := fun hmem => hapart f hmem f List.mem_cons_self rfl
    rw [resolveFields_append, (resolveFields_eq_none_iff hbefores).2 ⟨hin, hout⟩]
    dsimp only
    rw [resolveFields, hout f hnot, resolve_eq_error_iff.2 hf]

end Profile

/-! ## The variables -/

namespace Credentials.Variables

open Profile (Field)

variable {p q : Profile} {fs : List Field} {vs : Variables}

theorem loaded_loaded (vs : Variables) : vs.loaded.loaded = vs.loaded := by
  rw [loaded, loaded, Environment.completedBy_completedBy]

/-- The file is read where a field with a reference is reached. As the fields before it have none,
it does not matter that they are resolved first; and reading it again adds nothing. -/
theorem snd_resolveFields (hfs : fs.Nodup) : (resolveFields fs p vs).2 =
    if ∃ f ∈ fs, hasReference (p.get f) then vs.loaded else vs := by
  induction fs generalizing p vs with
  | nil => simp [resolveFields]
  | cons f fs ih =>
    obtain ⟨hf, hfs⟩ := List.nodup_cons.1 hfs
    have hrest (s : String) : (∃ g ∈ fs, hasReference ((p.set f s).get g)) ↔
        ∃ g ∈ fs, hasReference (p.get g) := by
      refine exists_congr fun g => and_congr_right fun hg => ?_
      rw [Profile.get_set_of_ne p s]
      rintro rfl
      exact hf hg
    rw [resolveFields, resolve]
    by_cases hreference : hasReference (p.get f)
    · rw [if_pos hreference, if_pos ⟨f, List.mem_cons_self, hreference⟩]
      cases Credentials.resolve vs.loaded.set (p.get f) with
      | error names => rfl
      | ok s =>
        dsimp only
        rw [ih hfs, loaded_loaded, ite_self]
    · rw [if_neg hreference]
      dsimp only
      rw [ih hfs]
      simp only [hrest, List.exists_mem_cons_iff, or_iff_right hreference]

/-- Fields without references stay as they are, whatever is set, and the file is not read. -/
theorem resolveFields_of_plain (h : ∀ f ∈ fs, Plain (p.get f).toList) :
    resolveFields fs p vs = ((p, none), vs) := by
  induction fs with
  | nil => rfl
  | cons f fs ih =>
    obtain ⟨hf, hfs⟩ := List.forall_mem_cons.1 h
    rw [plain_iff, String.ofList_toList] at hf
    rw [resolveFields, resolve, if_neg (by simp [hf])]
    dsimp only
    rw [Profile.set_get]
    exact ih hfs

/-! ## Profiles -/

/-- A profile is resolved field by field, in its order and in place, in the environment that the
file completes. Either each field has become what its text becomes, or there is a first field with
variables that are not set: those in front of it have become what their texts become, it and those
behind it are as before, and the error names the field and its variables that are not set. The
variables are those that the file completes if a field has a reference, else they are as before. A
profile whose fields hold no reference is left alone, and so are the variables, whatever they are:
so it is with one that was resolved to such fields, the second time. -/
theorem resolveProfile_exact (p : Profile) (vs : Variables) :
    let env := vs.set.completedBy vs.file
    (∀ q, (resolveProfile p vs).1 = (q, none) ↔ ∀ f, Expands env (p.get f) (q.get f)) ∧
    (∀ q f names, (resolveProfile p vs).1 = (q, some (f, names)) ↔
      ∃ before after, [.name, .user, .password, .host, .port] = before ++ f :: after ∧
        (∀ g ∈ before, Expands env (p.get g) (q.get g)) ∧
        (∀ g ∈ f :: after, q.get g = p.get g) ∧ Lacks env (p.get f) names ∧ names ≠ []) ∧
    (∀ f names, (Fault.unsetInField f names).error = .configuration ("'" ++ f.label ++ "': " ++
      ("Environment variable not found: " ++ ", ".intercalate names))) ∧
    (resolveProfile p vs).2 =
      (if ∃ f ∈ Profile.fields, hasReference (p.get f) then ⟨env, vs.file⟩ else vs) ∧
    ∀ q : Profile, (∀ f, Plain (q.get f).toList) →
      ∀ vs', resolveProfile q vs' = ((q, none), vs') := by
  intro env
  have hnodup : Profile.fields.Nodup := by decide
  have hfields : (resolveProfile p vs).1 = Profile.resolveFields env Profile.fields p :=
    (resolveFields_eq Profile.fields p rfl).1
  refine ⟨fun q => ?_, fun q f names => ?_, fun _ _ => rfl, snd_resolveFields hnodup,
    fun q hplain vs' => resolveFields_of_plain fun f _ => hplain f⟩
  · rw [hfields, Profile.resolveFields_eq_none_iff hnodup]
    constructor
    · exact fun h f => h.1 f (Profile.mem_fields f)
    · exact fun h => ⟨fun f _ => h f, fun f hf => absurd (Profile.mem_fields f) hf⟩
  · rw [hfields, Profile.resolveFields_eq_some_iff hnodup]
    refine exists_congr fun before => exists_congr fun after => and_congr_right fun hsplit => ?_
    refine and_congr_right fun _ => and_congr_left fun _ => forall_congr' fun g => ?_
    -- a field is in front of the one at fault, or it is this one or behind it
    have hmem : g ∈ before ∨ g ∈ f :: after := by
      rw [← List.mem_append, ← hsplit]
      exact Profile.mem_fields g
    have hapart : g ∈ before → g ∉ f :: after := by
      rw [hsplit, List.nodup_append] at hnodup
      exact fun hbefore hafter => hnodup.2.2 g hbefore g hafter rfl
    grind

/-- A profile whose user the file sets, and whose password needs a variable that nothing sets. -/
def halfSet : Profile :=
  ⟨"app", "\x7b\x7b env.U \x7d\x7d", "\x7b\x7benv.P\x7d\x7d", "\x7b\x7b env.U \x7d\x7d", "5432"⟩

/-- Its user is resolved and its host is not, for the password stands between them; once the
password is set it is resolved to a profile that a second time leaves alone. -/
theorem resolveProfile_exact_halfSet :
    (resolveProfile halfSet ⟨∅, some "U=reader"⟩).1 =
      ({ halfSet with user := "reader" }, some (.password, ["P"])) ∧
    (resolveProfile halfSet ⟨Keyed.ofList [("P", "pw")], some "U=reader"⟩).1 =
      (⟨"app", "reader", "pw", "reader", "5432"⟩, none) ∧
    (∀ f, Plain ((⟨"app", "reader", "pw", "reader", "5432"⟩ : Profile).get f).toList) ∧
    ∀ vs, resolveProfile ⟨"app", "reader", "pw", "reader", "5432"⟩ vs =
      ((⟨"app", "reader", "pw", "reader", "5432"⟩, none), vs) := by
  obtain ⟨-, hstops, -⟩ := resolveProfile_exact halfSet ⟨∅, some "U=reader"⟩
  obtain ⟨hresolves, -, -, -, hagain⟩ :=
    resolveProfile_exact halfSet ⟨Keyed.ofList [("P", "pw")], some "U=reader"⟩
  have hplain : ∀ f, Plain ((⟨"app", "reader", "pw", "reader", "5432"⟩ : Profile).get f).toList := by
    intro f
    rw [plain_iff]
    cases f <;> decide +kernel
  refine ⟨(hstops _ _ _).2 ⟨[.name, .user], [.host, .port], rfl, ?_, ?_, ?_⟩,
    (hresolves _).2 fun f => ?_, hplain, hagain _ hplain⟩
  · exact List.forall_mem_cons.2 ⟨resolve_eq_ok_iff.1 (by decide +kernel),
      List.forall_mem_singleton.2 (resolve_eq_ok_iff.1 (by decide +kernel))⟩
  · decide
  · exact resolve_eq_error_iff.1 (by decide +kernel)
  · refine resolve_eq_ok_iff.1 ?_
    cases f <;> decide +kernel

end Credentials.Variables

end PgRole
