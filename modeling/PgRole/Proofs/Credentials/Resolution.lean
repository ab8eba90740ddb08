import PgRole.Credentials.Variables
import PgRole.Proofs.Credentials.DotEnv
import PgRole.Proofs.Credentials.Reference
import PgRole.Proofs.Keyed

/-!
# References of a store

Variables settle for an environment when the file completes them to it. They settle for the same one
after each text, so that a store is resolved as if all of it were read in that environment
(`Variables.resolveStore_eq`). There, a store is resolved to what it becomes with every reference
replaced (`Store.resolveAll_eq_ok_iff`), or the error names the first role and the first of its
fields with a variable that is not set (`Store.resolveAll_eq_error_iff`).
-/

namespace PgRole

open Credentials

/-! ## Reading the file again and again -/

namespace Credentials.Variables

variable {vs : Variables} {env : Environment}

/-- The file completes the variables to an environment. -/
def Settles (env : Environment) (vs : Variables) : Prop := vs.set.completedBy vs.file = env

theorem Settles.loaded (h : vs.Settles env) : vs.loaded.Settles env := by
  rw [Settles, Variables.loaded, Environment.completedBy_completedBy]
  exact h

/-- A text is resolved as in the environment that the file completes, whether or not the file has
been read by then. -/
theorem resolve_eq (s : String) (h : vs.Settles env) :
    (resolve s vs).1 = Credentials.resolve env s ∧ (resolve s vs).2.Settles env := by
  unfold resolve
  by_cases hs : hasReference s
  · rw [if_pos hs]
    refine ⟨?_, h.loaded⟩
    rw [Variables.loaded, h]
  · rw [if_neg hs]
    exact ⟨(resolve_of_not_hasReference env (by simpa using hs)).symm, h⟩

/-- So are fields. -/
theorem resolveFields_eq (fs : List Profile.Field) (p : Profile) (h : vs.Settles env) :
    (resolveFields fs p vs).1 = Profile.resolveFields env fs p ∧
      (resolveFields fs p vs).2.Settles env := by
  induction fs generalizing p vs with
  | nil => exact ⟨rfl, h⟩
  | cons f fs ih =>
    obtain ⟨htext, hsettles⟩ := resolve_eq (p.get f) h
    rw [resolveFields, Profile.resolveFields, ← htext]
    cases hr : resolve (p.get f) vs with
    | mk r vs₁ =>
      rw [hr] at hsettles
      cases r with
      | ok s => exact ih (p.set f s) hsettles
      | error names => exact ⟨rfl, hsettles⟩

/-- So is the profile of a role. -/
theorem resolveEntry_eq (role : String) (p : Profile) (h : vs.Settles env) :
    (resolveEntry role p vs).1 = Store.resolveEntry env role p ∧
      (resolveEntry role p vs).2.Settles env := by
  unfold resolveEntry Store.resolveEntry
  by_cases hp : p.hasPlaceholders
  · rw [if_pos hp, if_pos hp]
    obtain ⟨hfields, hsettles⟩ := resolveFields_eq Profile.fields p h
    rw [resolveProfile, Profile.resolveAll, ← hfields]
    cases hr : resolveFields Profile.fields p vs with
    | mk r vs₁ =>
      rw [hr] at hsettles
      obtain ⟨q, failed⟩ := r
      cases failed with
      | none => exact ⟨rfl, hsettles⟩
      | some failed => exact ⟨rfl, hsettles⟩
  · rw [if_neg hp, if_neg hp]
    exact ⟨rfl, h⟩

/-- A store is resolved as if the file had been read once, before all. -/
theorem resolveStore_eq (raw : Store) (h : vs.Settles env) :
    (vs.resolveStore raw).1 = raw.resolveAll env :=
  raw.walk_eq_traverse (fun role p _ => resolveEntry_eq role p) h

end Credentials.Variables

/-! ## Profiles in an environment -/

namespace Profile

variable {env : Environment} {p q : Profile} {f g : Field} {names : List String}

theorem get_set (p : Profile) (f : Field) (s : String) : (p.set f s).get f = s := by
  cases f <;> rfl

theorem get_set_of_ne (p : Profile) (s : String) (h : f ≠ g) : (p.set f s).get g = p.get g := by
  cases f <;> cases g <;> first
    | rfl
    | exact absurd rfl h

/-- A profile is its fields. -/
theorem ext_get (h : ∀ f, p.get f = q.get f) : p = q := by
  have := h .name
  have := h .user
  have := h .password
  have := h .host
  have := h .port
  cases p
  cases q
  simp_all [get]

theorem mem_fields (f : Field) : f ∈ fields := by
  cases f <;> decide

/-- A field can be resolved. -/
def check (env : Environment) (p : Profile) (f : Field) : Except (Field × List String) Unit :=
  match Credentials.resolve env (p.get f) with
  | .ok _ => .ok ()
  | .error names => .error (f, names)

/-- A field can be resolved just if its text lacks no variable. -/
theorem check_eq_ok_iff : p.check env f = .ok () ↔ Lacks env (p.get f) [] := by
  rw [lacks_nil_iff, check]
  cases hr : Credentials.resolve env (p.get f) with
  | ok t => exact ⟨fun _ => ⟨t, resolve_eq_ok_iff.1 hr⟩, fun _ => rfl⟩
  | error names =>
    constructor
    · intro h
      cases h
    · rintro ⟨t, ht⟩
      rw [resolve_eq_ok_iff.2 ht] at hr
      cases hr

theorem check_eq_error_iff :
    p.check env f = .error (g, names) ↔ f = g ∧ Lacks env (p.get f) names ∧ names ≠ [] := by
  rw [← resolve_eq_error_iff, check]
  cases Credentials.resolve env (p.get f) <;> simp

theorem check_set_of_ne (s : String) (h : f ≠ g) : (p.set f s).check env g = p.check env g := by
  rw [check, check, get_set_of_ne p s h]

/-- The fields are resolved in order up to the first that cannot be. -/
theorem resolveFields_snd {fs : List Field} (hfs : fs.Nodup) :
    fs.forM (p.check env) = match (resolveFields env fs p).2 with
      | none => .ok ()
      | some failed => .error failed := by
  induction fs generalizing p with
  | nil => rfl
  | cons f fs ih =>
    obtain ⟨hf, hfs⟩ := List.nodup_cons.1 hfs
    rw [List.forM, resolveFields, check]
    cases hr : Credentials.resolve env (p.get f) with
    | error names => rfl
    | ok s =>
      dsimp only
      rw [← ih hfs]
      refine forM_congr fun g hg => (check_set_of_ne s ?_).symm
      rintro rfl
      exact hf hg

/-- Where all fields are resolved, each has become what its text becomes. -/
theorem get_resolveFields {fs : List Field} (hfs : fs.Nodup)
    (h : resolveFields env fs p = (q, none)) :
    (∀ f ∈ fs, Credentials.resolve env (p.get f) = .ok (q.get f)) ∧
      ∀ f, f ∉ fs → q.get f = p.get f := by
  induction fs generalizing p with
  | nil =>
    cases h
    exact ⟨by simp, fun _ _ => rfl⟩
  | cons f fs ih =>
    obtain ⟨hf, hfs⟩ := List.nodup_cons.1 hfs
    rw [resolveFields] at h
    cases hr : Credentials.resolve env (p.get f) with
    | error names =>
      rw [hr] at h
      cases h
    | ok s =>
      rw [hr] at h
      obtain ⟨hin, hout⟩ := ih hfs h
      -- fields are set one at a time, and none twice, so what was set stays
      have hne : ∀ g ∈ fs, f ≠ g := by
        rintro g hg rfl
        exact hf hg
      constructor
      · intro g hg
        rcases List.mem_cons.1 hg with rfl | hg
        · rw [hr, hout g hf, get_set]
        · rw [← get_set_of_ne p s (hne g hg)]
          exact hin g hg
      · intro g hg
        rw [List.mem_cons, not_or] at hg
        rw [hout g hg.2, get_set_of_ne p s fun h => hg.1 h.symm]

/-- A profile without double braces has no references. -/
theorem expands_self (h : p.hasPlaceholders = false) (f : Field) :
    Expands env (p.get f) (p.get f) := by
  refine resolve_eq_ok_iff.1 (resolve_of_not_hasReference env ?_)
  by_contra hf
  have hmay := mayRefer_of_hasReference (by simpa using hf)
  rw [hasPlaceholders, List.any_eq_false] at h
  exact h f (mem_fields f) hmay

end Profile

namespace Store

variable {env : Environment} {role : String} {p q : Profile} {fault : Fault} {raw full : Store}

/-- What an error says of the field at fault. -/
def unsetFault (role : String) (failed : Profile.Field × List String) : Fault :=
  .unsetInRole role failed.1 failed.2

/-- A profile fails to be resolved just where one of its fields does. -/
theorem map_resolveEntry (env : Environment) (role : String) (p : Profile) :
    (resolveEntry env role p).map (fun _ => ()) =
      (Profile.fields.forM (p.check env)).mapError (unsetFault role) := by
  unfold resolveEntry
  by_cases hp : p.hasPlaceholders
  · rw [if_pos hp, Profile.resolveFields_snd (by decide), Profile.resolveAll]
    split
    · rename_i heq
      rw [heq]
      rfl
    · rename_i heq
      rw [heq]
      rfl
  · rw [if_neg hp]
    have hall : Profile.fields.forM (p.check env) = .ok () := by
      refine forM_eq_ok_iff.2 fun f _ => Profile.check_eq_ok_iff.2 (lacks_nil_iff.2 ?_)
      exact ⟨p.get f, Profile.expands_self (by simpa using hp) f⟩
    rw [hall]
    rfl

/-- In a profile that is resolved every field has become what its text becomes. -/
theorem expands_of_resolveEntry (h : resolveEntry env role p = .ok q) (f : Profile.Field) :
    Expands env (p.get f) (q.get f) := by
  unfold resolveEntry at h
  by_cases hp : p.hasPlaceholders
  · rw [if_pos hp] at h
    split at h
    · rename_i hq
      cases h
      obtain ⟨hget, -⟩ := Profile.get_resolveFields (by decide) hq
      exact resolve_eq_ok_iff.1 (hget f (Profile.mem_fields f))
    · cases h
  · rw [if_neg hp] at h
    cases h
    exact Profile.expands_self (by simpa using hp) f

/-- A profile is resolved to the one in which each field is what it becomes. -/
theorem resolveEntry_eq_ok_iff :
    resolveEntry env role p = .ok q ↔ ∀ f, Expands env (p.get f) (q.get f) := by
  refine ⟨expands_of_resolveEntry, fun h => ?_⟩
  have hall : Profile.fields.forM (p.check env) = .ok () :=
    forM_eq_ok_iff.2 fun f _ => Profile.check_eq_ok_iff.2 (lacks_nil_iff.2 ⟨_, h f⟩)
  have hmap := map_resolveEntry env role p
  rw [hall] at hmap
  obtain ⟨q', hq', -⟩ := map_eq_ok_iff.1 hmap
  have hget : q' = q := Profile.ext_get fun f => (expands_of_resolveEntry hq' f).unique (h f)
  rw [hq', hget]

/-- The first field of a profile with variables that are not set, and these. -/
def UnsetField (env : Environment) (p : Profile) (f : Profile.Field) (names : List String) : Prop :=
  ∃ before after, Profile.fields = before ++ f :: after ∧
    (∀ g ∈ before, Lacks env (p.get g) []) ∧ Lacks env (p.get f) names ∧ names ≠ []

/-- A profile is not resolved just if a field lacks a variable, and the error is of the first that
does. -/
theorem resolveEntry_eq_error_iff : resolveEntry env role p = .error fault ↔
    ∃ f names, UnsetField env p f names ∧ fault = .unsetInRole role f names := by
  rw [← map_eq_error_iff (f := fun _ => ()), map_resolveEntry, mapError_eq_error_iff]
  constructor
  · rintro ⟨⟨f, names⟩, hfields, rfl⟩
    obtain ⟨before, g, after, hsplit, hbefore, hg⟩ := forM_eq_error_iff.1 hfields
    obtain ⟨rfl, hlacks, hne⟩ := Profile.check_eq_error_iff.1 hg
    refine ⟨g, names, ⟨before, after, hsplit, fun f hf => ?_, hlacks, hne⟩, rfl⟩
    exact Profile.check_eq_ok_iff.1 (hbefore f hf)
  · rintro ⟨f, names, ⟨before, after, hsplit, hbefore, hlacks, hne⟩, rfl⟩
    refine ⟨(f, names), forM_eq_error_iff.2 ⟨before, f, after, hsplit, fun g hg => ?_, ?_⟩, rfl⟩
    · exact Profile.check_eq_ok_iff.2 (hbefore g hg)
    · exact Profile.check_eq_error_iff.2 ⟨rfl, hlacks, hne⟩

/-! ## Stores in an environment -/

/-- A store becomes another with the same roles when each field of each profile does. -/
def Expands (env : Environment) (raw full : Store) : Prop :=
  List.Forall₂ (fun a b => a.1 = b.1 ∧ ∀ f, Credentials.Expands env (a.2.get f) (b.2.get f))
    raw.entries full.entries

/-- The error for a store with variables that are not set: of the first role that has one, the first
field, and all of its variables that are not set. -/
def UnsetFirst (env : Environment) (raw : Store) (fault : Fault) : Prop :=
  ∃ before role p after f names, raw.entries = before ++ (role, p) :: after ∧
    (∀ e ∈ before, ∀ g, Lacks env (e.2.get g) []) ∧ UnsetField env p f names ∧
    fault = .unsetInRole role f names

/-- A store is resolved to what it becomes. -/
theorem resolveAll_eq_ok_iff : raw.resolveAll env = .ok full ↔ raw.Expands env full := by
  rw [resolveAll, Keyed.traverse_eq_ok_iff, Expands]
  refine ⟨fun h => h.imp fun a b hab => ?_, fun h => h.imp fun a b hab => ?_⟩
  · exact ⟨hab.1, resolveEntry_eq_ok_iff.1 hab.2⟩
  · exact ⟨hab.1, resolveEntry_eq_ok_iff.2 hab.2⟩

/-- A profile is resolved just if no field lacks a variable. -/
theorem resolveEntry_isOk_iff :
    (∃ q, resolveEntry env role p = .ok q) ↔ ∀ f, Lacks env (p.get f) [] := by
  constructor
  · rintro ⟨q, hq⟩ f
    exact lacks_nil_iff.2 ⟨_, expands_of_resolveEntry hq f⟩
  · intro h
    cases hr : resolveEntry env role p with
    | ok q => exact ⟨q, rfl⟩
    | error fault =>
      obtain ⟨f, names, ⟨before, after, -, -, hlacks, hne⟩, -⟩ := resolveEntry_eq_error_iff.1 hr
      exact absurd (hlacks.unique (h f)) hne

/-- A store that is not resolved has variables that are not set. -/
theorem resolveAll_eq_error_iff : raw.resolveAll env = .error fault ↔ raw.UnsetFirst env fault := by
  rw [resolveAll, Keyed.traverse_eq_error_iff, UnsetFirst]
  constructor
  · rintro ⟨before, role, p, after, hsplit, hbefore, hp⟩
    obtain ⟨f, names, hunset, rfl⟩ := resolveEntry_eq_error_iff.1 hp
    refine ⟨before, role, p, after, f, names, hsplit, fun e he => ?_, hunset, rfl⟩
    exact resolveEntry_isOk_iff.1 (hbefore e he)
  · rintro ⟨before, role, p, after, f, names, hsplit, hbefore, hunset, rfl⟩
    refine ⟨before, role, p, after, hsplit, fun e he => ?_, ?_⟩
    · exact resolveEntry_isOk_iff.2 (hbefore e he)
    · exact resolveEntry_eq_error_iff.2 ⟨f, names, hunset, rfl⟩

end Store

end PgRole
