import PgRole.Credentials.Loading
import PgRole.Proofs.Credentials.Resolution
import PgRole.Proofs.Text.Digits

/-!
# Loading credentials

What a text of credentials gives, as a relation between stores: the store that is read, the one that
it becomes in the environment, and what is required of that one.

* `Store.validate_eq_ok_iff`, `Store.validate_eq_error_iff`: which stores can be used, and what is
  reported of the others.
* `Store.load_exact`: which texts give a store, which store it is, and which error the others give.
-/

namespace PgRole

open Credentials

namespace Store

/-! ## Usable profiles -/

/-- A text is a port: around white space, a number of 16 bits that is not zero, in digits with an
optional plus sign. -/
def IsPort (s : String) : Prop :=
  ∃ digits, ((Text.trim s).toList = digits ∨ (Text.trim s).toList = '+' :: digits) ∧ digits ≠ [] ∧
    (∀ c ∈ digits, Text.isDigit c) ∧ 0 < Text.valueOf digits ∧ Text.valueOf digits < 2 ^ 16

/-- The fields that must not be blank, in the order in which they are looked at. -/
def required : List Profile.Field := [.name, .user, .host]

/-- A role can be used with its profile. -/
structure Usable (role : String) (p : Profile) : Prop where
  role : ¬ Text.allBlank role
  fields : ∀ f ∈ required, ¬ Text.allBlank (p.get f)
  port : IsPort p.port

/-- What is reported of a role that cannot be used with its profile: a blank role, else the first
blank field, else the port. -/
inductive Rejects (role : String) (p : Profile) : Fault → Prop where
  | role (h : Text.allBlank role) : Rejects role p .emptyRole
  | field {before after : List Profile.Field} {f : Profile.Field} (hrole : ¬ Text.allBlank role)
      (hsplit : required = before ++ f :: after)
      (hbefore : ∀ g ∈ before, ¬ Text.allBlank (p.get g)) (h : Text.allBlank (p.get f)) :
      Rejects role p (.emptyField role f)
  | port (hrole : ¬ Text.allBlank role) (hfields : ∀ f ∈ required, ¬ Text.allBlank (p.get f))
      (h : ¬ IsPort p.port) : Rejects role p (.badPort role p.port)

variable {role : String} {p : Profile} {fault : Fault} {store raw full : Store} {env : Environment}

/-- A port is usable just if it is of the grammar of ports. -/
theorem portNumber?_isSome_iff : p.portNumber?.isSome ↔ IsPort p.port := by
  have hread (digits : List Char) : ((Text.readNat? digits).bind fun n =>
      if 0 < n ∧ n < 65536 then some n else none).isSome ↔ digits ≠ [] ∧
        (∀ c ∈ digits, Text.isDigit c) ∧ 0 < Text.valueOf digits ∧ Text.valueOf digits < 2 ^ 16 := by
    simp only [Option.isSome_iff_exists, Option.bind_eq_some_iff, Text.readNat?_eq_some_iff,
      Option.ite_none_right_eq_some]
    constructor
    · rintro ⟨_, _, ⟨hne, hall, rfl⟩, hvalue, -⟩
      exact ⟨hne, hall, hvalue⟩
    · rintro ⟨hne, hall, hvalue⟩
      exact ⟨_, _, ⟨hne, hall, rfl⟩, hvalue, rfl⟩
  unfold Profile.portNumber? Profile.readPort? IsPort
  generalize (Text.trim p.port).toList = cs
  split
  · rename_i r
    rw [hread]
    constructor
    · exact fun h => ⟨r, .inr rfl, h⟩
    · rintro ⟨digits, rfl | h, hne, hall, hvalue⟩
      -- a plus sign is no digit
      · have := hall '+' List.mem_cons_self
        exact absurd this (by decide)
      · cases h
        exact ⟨hne, hall, hvalue⟩
  · rename_i hplus
    rw [hread]
    constructor
    · exact fun h => ⟨cs, .inl rfl, h⟩
    · rintro ⟨digits, rfl | h, hvalid⟩
      · exact hvalid
      · exact absurd h (hplus digits)

/-- A role that cannot be used is reported with the first fault it has. -/
theorem validateEntry_eq_error_iff :
    validateEntry role p = .error fault ↔ Rejects role p fault := by
  constructor
  · intro h
    rw [validateEntry] at h
    -- the role is looked at first, then the fields that must not be blank, then the port
    by_cases hrole : Text.allBlank role
    · rw [if_pos hrole] at h
      cases h
      exact .role hrole
    · rw [if_neg hrole, validateProfile] at h
      split at h
      · rename_i f hfind
        cases h
        obtain ⟨hf, before, after, hsplit, hbefore⟩ := List.find?_eq_some_iff_append.1 hfind
        exact .field hrole hsplit (fun g hg => by simpa using hbefore g hg) hf
      · rename_i hfind
        by_cases hport : p.portNumber?.isSome
        · rw [if_pos hport] at h
          cases h
        · rw [if_neg hport] at h
          cases h
          rw [portNumber?_isSome_iff] at hport
          exact .port hrole (List.find?_eq_none.1 hfind) hport
  · intro h
    rw [validateEntry]
    cases h with
    | role h => rw [if_pos h]
    | @field before after f hrole hsplit hbefore h =>
      have hfind : (required.find? fun f => Text.allBlank (p.get f)) = some f :=
        List.find?_eq_some_iff_append.2
          ⟨h, before, after, hsplit, fun g hg => by simpa using hbefore g hg⟩
      rw [required] at hfind
      rw [if_neg hrole, validateProfile, hfind]
    | port hrole hfields h =>
      have hfind : (required.find? fun f => Text.allBlank (p.get f)) = none :=
        List.find?_eq_none.2 hfields
      rw [required] at hfind
      rw [if_neg hrole, validateProfile, hfind]
      dsimp only
      rw [if_neg (by rwa [portNumber?_isSome_iff])]

theorem not_usable_of_rejects (h : Rejects role p fault) : ¬ Usable role p := by
  intro hp
  cases h with
  | role h => exact hp.role h
  | @field before after f hrole hsplit hbefore h => exact hp.fields f (by simp [hsplit]) h
  | port hrole hfields h => exact h hp.port

/-- A profile passes the checks just if it is usable. -/
theorem validateEntry_eq_ok_iff : validateEntry role p = .ok () ↔ Usable role p := by
  constructor
  · intro h
    -- every way not to be usable would be reported
    have hnone : ∀ fault, ¬ Rejects role p fault := by
      intro fault hfault
      rw [← validateEntry_eq_error_iff, h] at hfault
      cases hfault
    have hrole : ¬ Text.allBlank role := fun hblank => hnone _ (.role hblank)
    have hfields : ∀ f ∈ required, ¬ Text.allBlank (p.get f) := by
      intro f hf hblank
      cases hfind : required.find? fun f => Text.allBlank (p.get f) with
      | none => exact List.find?_eq_none.1 hfind f hf hblank
      | some g =>
        obtain ⟨hg, before, after, hsplit, hbefore⟩ := List.find?_eq_some_iff_append.1 hfind
        exact hnone _ (.field hrole hsplit (fun g hg => by simpa using hbefore g hg) hg)
    refine ⟨hrole, hfields, ?_⟩
    by_contra hport
    exact hnone _ (.port hrole hfields hport)
  · intro h
    cases hr : validateEntry role p with
    | ok => rfl
    | error fault => exact absurd h (not_usable_of_rejects (validateEntry_eq_error_iff.1 hr))

/-! ## Usable stores -/

/-- What is reported of a store that cannot be used: the fault of the first role that cannot. -/
def RejectedFirst (store : Store) (fault : Fault) : Prop :=
  ∃ before role p after, store.entries = before ++ (role, p) :: after ∧
    (∀ e ∈ before, Usable e.1 e.2) ∧ Rejects role p fault

theorem validate_eq_ok_iff : store.validate = .ok () ↔ ∀ e ∈ store.entries, Usable e.1 e.2 := by
  rw [validate]
  refine forM_eq_ok_iff.trans ⟨fun h e he => ?_, fun h e he => ?_⟩
  · exact validateEntry_eq_ok_iff.1 (h e he)
  · exact validateEntry_eq_ok_iff.2 (h e he)

/-- A store is refused with the fault of the first profile that is not usable. -/
theorem validate_eq_error_iff : store.validate = .error fault ↔ store.RejectedFirst fault := by
  rw [validate]
  refine forM_eq_error_iff.trans ⟨?_, ?_⟩
  · rintro ⟨before, ⟨role, p⟩, after, hsplit, hbefore, hp⟩
    refine ⟨before, role, p, after, hsplit, fun e he => ?_, validateEntry_eq_error_iff.1 hp⟩
    exact validateEntry_eq_ok_iff.1 (hbefore e he)
  · rintro ⟨before, role, p, after, hsplit, hbefore, hp⟩
    refine ⟨before, (role, p), after, hsplit, fun e he => ?_, validateEntry_eq_error_iff.2 hp⟩
    exact validateEntry_eq_ok_iff.2 (hbefore e he)

/-! ## Loading -/

/-- A store becomes another where all its variables are set, and only there. -/
theorem exists_expands_iff :
    (∃ full, raw.Expands env full) ↔ ∀ e ∈ raw.entries, ∀ f, Lacks env (e.2.get f) [] := by
  constructor
  · rintro ⟨full, hfull⟩
    refine ((List.forall₂_and_left _ _).1 (hfull.imp fun a b hab => ⟨fun f => ?_, hab⟩)).1
    exact lacks_nil_iff.2 ⟨b.2.get f, hab.2 f⟩
  · intro h
    cases hr : raw.resolveAll env with
    | ok full => exact ⟨full, resolveAll_eq_ok_iff.1 hr⟩
    | error fault =>
      obtain ⟨before, role, p, after, f, names, hsplit, -, hunset, -⟩ :=
        resolveAll_eq_error_iff.1 hr
      obtain ⟨-, -, -, -, hlacks, hne⟩ := hunset
      exact absurd (hlacks.unique (h (role, p) (by simp [hsplit]) f)) hne

/-- A text loads in the steps of its format, its references and its roles. -/
theorem load_eq_bind {format : FileFormat} {s : String} (h : ofText format s = .ok raw)
    {vs : Variables} (hvs : vs.Settles env) :
    load vs format s = raw.resolveAll env >>= fun full => full.validate >>= fun _ => .ok full := by
  rw [load, ofTextResolved, h]
  exact congrArg (· >>= fun full => full.validate >>= fun _ => .ok full) (vs.resolveStore_eq raw hvs)

/-- Loading is exact. Let a text be read as a store, and let the file complete the variables to an
environment. The text loads if all variables that its fields refer to are set there and the store
that it becomes is usable, and gives that store, in which only references are replaced. Otherwise
the error is one of configuration: where variables are not set, it is of the first role and the
first of its fields that has one, with all of that field; else it is of the first role that cannot
be used, with the first reason. No profile with a reference is passed over. -/
theorem load_exact {format : FileFormat} {s : String} {raw : Store}
    (h : ofText format s = .ok raw) (vs : Variables) {env : Environment}
    (hvs : vs.set.completedBy vs.file = env) :
    ((∃ full, raw.Expands env full) ↔ ∀ e ∈ raw.entries, ∀ f, Lacks env (e.2.get f) []) ∧
    (∀ store, load vs format s = .ok store ↔
      raw.Expands env store ∧ ∀ e ∈ store.entries, Usable e.1 e.2) ∧
    (∀ fault, load vs format s = .error fault ↔
      raw.UnsetFirst env fault ∨ ∃ full, raw.Expands env full ∧ full.RejectedFirst fault) ∧
    (∀ fault, load vs format s = .error fault → fault.error.kind = .configuration) ∧
    ∀ e ∈ raw.entries, ∀ f ps name, Scans (e.2.get f).toList ps → .reference name ∈ ps →
      e.2.hasPlaceholders := by
  have hload := load_eq_bind h hvs
  refine ⟨exists_expands_iff, fun store => ?_, fun fault => ?_, fun _ _ => rfl, ?_⟩
  · rw [hload, bind_eq_ok_iff]
    constructor
    · rintro ⟨full, hfull, hvalid⟩
      obtain ⟨_, hvalid, hstore⟩ := bind_eq_ok_iff.1 hvalid
      cases hstore
      exact ⟨resolveAll_eq_ok_iff.1 hfull, validate_eq_ok_iff.1 hvalid⟩
    · rintro ⟨hexpands, husable⟩
      refine ⟨store, resolveAll_eq_ok_iff.2 hexpands, bind_eq_ok_iff.2 ⟨(), ?_, rfl⟩⟩
      exact validate_eq_ok_iff.2 husable
  · rw [hload, bind_eq_error_iff, resolveAll_eq_error_iff]
    refine or_congr Iff.rfl (exists_congr fun full => ?_)
    rw [resolveAll_eq_ok_iff, ← validate_eq_error_iff, bind_eq_error_iff]
    refine and_congr Iff.rfl ⟨?_, .inl⟩
    rintro (hvalid | ⟨_, _, hok⟩)
    · exact hvalid
    · cases hok
  · -- a reference makes the quick look at the field succeed, which only asks for the braces
    rintro ⟨role, p⟩ - f ps name hscans hname
    have hrefers : hasReference (p.get f) := by
      rw [hasReference, referredNames_eq, scans_iff.1 hscans]
      have hmem : String.ofList name ∈ ps.filterMap ReferencePiece.name? :=
        List.mem_filterMap.2 ⟨_, hname, rfl⟩
      simpa using List.ne_nil_of_mem hmem
    exact List.any_eq_true.2 ⟨f, Profile.mem_fields f, mayRefer_of_hasReference hrefers⟩

/-- Credentials of one role whose name and host are variables. -/
def sampleText : String :=
  "\x7b\"a\": \x7b\"name\": \"\x7b\x7b env.DB \x7d\x7d\", \"user\": \"u\", \"password\": \"\", " ++
    "\"host\": \"h-\x7b\x7benv.H\x7d\x7d\", \"port\": \" +5432\"\x7d\x7d"

/-- One of them is set; the file gives both. -/
def sampleVariables : Variables := ⟨Keyed.ofList [("DB", "app")], some "DB=other\nH=$DB.local\n"⟩

/-- A host from a variable, a user from the file and an empty password: the store is loaded and
usable. -/
theorem load_exact_sample : ∃ raw store, ofText .json sampleText = .ok raw ∧
    load sampleVariables .json sampleText = .ok store ∧
    store.entries = [("a", ⟨"app", "u", "", "h-app.local", " +5432"⟩)] ∧
    raw.Expands (sampleVariables.set.completedBy sampleVariables.file) store ∧
    ∀ e ∈ store.entries, Usable e.1 e.2 := by
  have hraw : (ofText .json sampleText).toOption.isSome := by decide +kernel
  have hstore : (load sampleVariables .json sampleText).toOption.map Keyed.entries =
      some [("a", ⟨"app", "u", "", "h-app.local", " +5432"⟩)] := by decide +kernel
  obtain ⟨raw, hraw⟩ := Option.isSome_iff_exists.1 hraw
  obtain ⟨store, hload, hentries⟩ := Option.map_eq_some_iff.1 hstore
  rw [toOption_eq_some_iff] at hraw hload
  obtain ⟨hexpands, husable⟩ := ((load_exact hraw sampleVariables rfl).2.1 store).1 hload
  exact ⟨raw, store, hraw, hload, hentries, hexpands, husable⟩

end Store

end PgRole
