import PgRole.Credentials.Profile
import PgRole.Proofs.Except

/-!
# Profiles that differ in their passwords

`Profile.Alike` relates profiles that differ at most in their passwords, and `Store.Alike` stores
with alike profiles for the same roles. What is shown of them is the same, and so is whether they
can be used and why not; looking up a role finds profiles that are alike, or none in both stores.
-/

namespace PgRole

/-! ## Profiles -/

/-- Profiles that differ at most in their passwords. -/
structure Profile.Alike (p p' : Profile) : Prop where
  name : p.name = p'.name
  user : p.user = p'.user
  host : p.host = p'.host
  port : p.port = p'.port

namespace Profile.Alike

variable {p p' : Profile}

theorem debug_eq (h : p.Alike p') : p.debug = p'.debug := by
  unfold debug
  rw [h.name, h.user, h.host, h.port]

theorem summary_eq (h : p.Alike p') : p.summary = p'.summary := by
  unfold summary
  rw [h.name, h.user, h.host, h.port]

theorem portNumber?_eq (h : p.Alike p') : p.portNumber? = p'.portNumber? := by
  unfold portNumber?
  rw [h.port]

end Profile.Alike

/-! ## Stores -/

namespace Store

open Credentials

/-- Stores that have alike profiles for the same roles. -/
def Alike (s s' : Store) : Prop :=
  List.Forall₂ (fun e e' => e.1 = e'.1 ∧ e.2.Alike e'.2) s.entries s'.entries

/-- The checks of a profile do not look at the password. -/
theorem validateProfile_eq_of_alike {p p' : Profile} (h : p.Alike p') (role : String) :
    validateProfile role p = validateProfile role p' := by
  have hblank : [Profile.Field.name, .user, .host].find? (fun f => Text.allBlank (p.get f)) =
      [Profile.Field.name, .user, .host].find? fun f => Text.allBlank (p'.get f) := by
    simp only [List.find?, Profile.get, h.name, h.user, h.host]
  unfold validateProfile
  rw [hblank, h.portNumber?_eq, h.port]

theorem validateEntry_eq_of_alike {p p' : Profile} (h : p.Alike p') (role : String) :
    validateEntry role p = validateEntry role p' := by
  unfold validateEntry
  rw [validateProfile_eq_of_alike h]

variable {s s' : Store}

namespace Alike

/-- What is made of roles and profiles without the passwords is the same. -/
theorem map_entries_eq {β : Type} {f : String × Profile → β} (h : s.Alike s')
    (hf : ∀ role p p', p.Alike p' → f (role, p) = f (role, p')) :
    s.entries.map f = s'.entries.map f := by
  unfold Alike at h
  generalize s.entries = l, s'.entries = l' at h ⊢
  induction h with
  | nil => rfl
  | @cons e e' _ _ he _ ih =>
    obtain ⟨role, p⟩ := e
    obtain ⟨role', p'⟩ := e'
    obtain ⟨rfl, hp⟩ := he
    rw [List.map_cons, List.map_cons, ih, hf role p p' hp]

theorem debug_eq (h : s.Alike s') : s.debug = s'.debug := by
  unfold debug
  rw [h.map_entries_eq]
  intro role p p' hp
  rw [hp.debug_eq]

/-- Nor do those of a store. -/
theorem validate_eq (h : s.Alike s') : s.validate = s'.validate := by
  unfold validate
  unfold Alike at h
  generalize s.entries = l, s'.entries = l' at h ⊢
  induction h with
  | nil => rfl
  | @cons e e' _ _ he _ ih =>
    obtain ⟨role, p⟩ := e
    obtain ⟨role', p'⟩ := e'
    obtain ⟨rfl, hp⟩ := he
    rw [List.forM, List.forM, ih]
    exact congrArg (· >>= fun _ => _) (validateEntry_eq_of_alike hp role)

/-- A role has alike profiles, or none, in stores that are alike. -/
theorem rel_get? (h : s.Alike s') (role : String) :
    Option.Rel Profile.Alike (s.get? role) (s'.get? role) := by
  unfold Keyed.get?
  unfold Alike at h
  generalize s.entries = l, s'.entries = l' at h ⊢
  induction h with
  | nil => exact .none
  | @cons e e' _ _ he _ ih =>
    obtain ⟨role₁, p⟩ := e
    obtain ⟨role₁', p'⟩ := e'
    obtain ⟨rfl, hp⟩ := he
    unfold Entries.get?
    split_ifs
    · exact .some hp
    · exact ih

/-- What does not look at the password is the same for a role of either store. -/
theorem map_get?_eq {β : Type} {f : Profile → β} (h : s.Alike s')
    (hf : ∀ p p', p.Alike p' → f p = f p') (role : String) :
    (s.get? role).map f = (s'.get? role).map f := by
  have hrel := h.rel_get? role
  generalize s.get? role = x, s'.get? role = x' at hrel ⊢
  cases hrel with
  | none => rfl
  | some hp => exact congrArg some (hf _ _ hp)

theorem resolve (h : s.Alike s') (role : String) :
    SameUpTo Profile.Alike (s.resolve role) (s'.resolve role) := by
  unfold Store.resolve
  have hrel := h.rel_get? role
  generalize s.get? role = x, s'.get? role = x' at hrel ⊢
  cases hrel with
  | none => exact .error _
  | some hp => exact .ok hp

end Alike

end Store

end PgRole
