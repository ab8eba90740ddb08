import PgRole.Proofs.Credentials.PortText

/-!
# Stores written and read as JSON

A store is read back from its text, whatever order the members of its profiles are written in
(`Store.ofJsonText?_jsonIn`). Of texts in general `Store.ofJsonText?_exact` says also how a port may
be written, which of several profiles a role gets, and what fails a text.
-/

namespace PgRole

open Json

namespace Profile

/-- The profile as JSON, with its fields in an order. -/
def jsonIn (order : List Field) (p : Profile) : Json :=
  .obj (order.map fun f => (f.label, .str (p.get f)))

/-- The document of the profile as JSON. -/
def formIn (order : List Field) (p : Profile) : Document :=
  .obj (order.map fun f => (some f.label, .str (some (p.get f))))

variable {order : List Field}

theorem writtenAs_jsonIn (p : Profile) : WrittenAs (p.jsonIn order) (p.formIn order) := by
  refine writtenAs_obj ?_
  rw [List.forall₂_map_left_iff, List.forall₂_map_right_iff, List.forall₂_same]
  exact fun f _ => ⟨rfl, writtenAs_str _⟩

/-- A profile that is written with its fields in any order is of the form that is read. -/
theorem isForm_formIn (horder : order.Perm fields) (p : Profile) : IsForm p (p.formIn order) := by
  refine .obj (fun m hm => ?_) fun f => ⟨.str (some (p.get f)), ?_, .str _⟩
  · obtain ⟨f, -, rfl⟩ := List.mem_map.1 hm
    simp
  · have honce : order.count f = 1 := by
      rw [horder.count_eq]
      cases f <;> decide
    have hnamed : (isNamed f ∘ fun g => (some g.label, Document.str (some (p.get g)))) =
        fun g => g == f := by
      funext g
      rw [Bool.eq_iff_iff, Function.comp_apply, isNamed_label_iff, beq_iff_eq]
    rw [List.filter_map, hnamed, List.filter_beq, honce]
    rfl

/-- A document is a string or an unsigned integer of 64 bits. -/
def IsScalar (d : Document) : Prop :=
  (∃ s, d = .str s) ∨ ∃ l n, d = .num l ∧ l.value? = some (.ofUInt64 n)

/-- A document that is no profile: a field is missing, or the port is not a scalar. -/
inductive Lacking : Document → Prop where
  | member {ms : List (Option String × Document)} {f : Field} (h : ∀ m ∈ ms, m.1 ≠ some f.label) :
    Lacking (.obj ms)
  | item {items : List Document} (h : items.length < fields.length) : Lacking (.arr items)
  | portMember {ms : List (Option String × Document)} {d : Document} (h : (some "port", d) ∈ ms)
    (hd : ¬ IsScalar d) : Lacking (.obj ms)
  | portItem {items : List Document} {d : Document} (h : items[4]? = some d) (hd : ¬ IsScalar d) :
    Lacking (.arr items)

theorem IsText.isScalar {f : Field} {s : String} {d : Document} (h : IsText f s d) :
    IsScalar d := by
  cases h with
  | str s => exact .inl ⟨_, rfl⟩
  | num _ hl => exact .inr ⟨_, _, rfl, hl⟩

/-- A document without one of the fields is no profile. -/
theorem Lacking.not_isForm {d : Document} (h : Lacking d) (p : Profile) : ¬ IsForm p d := by
  intro hform
  cases hform with
  | @obj ms _ hfields =>
    cases h with
    | @member _ f h =>
      obtain ⟨d, hd, -⟩ := hfields f
      have hmem : (some f.label, d) ∈ ms := List.mem_of_mem_filter (hd ▸ List.mem_singleton_self _)
      exact h _ hmem rfl
    | @portMember _ d h hd =>
      obtain ⟨d', hd', htext⟩ := hfields .port
      have hmem : (some "port", d) ∈ ms.filter (isNamed .port) :=
        List.mem_filter.2 ⟨h, isNamed_iff.2 rfl⟩
      rw [hd', List.mem_singleton] at hmem
      obtain ⟨-, rfl⟩ := Prod.mk.inj hmem
      exact hd htext.isScalar
  | arr hitems =>
    cases h with
    | item h => exact absurd hitems.length_eq (by omega)
    | @portItem items d h hd =>
      unfold fields at hitems
      rcases hitems with _ | ⟨-, _ | ⟨-, _ | ⟨-, _ | ⟨-, _ | ⟨hport, _⟩⟩⟩⟩⟩
      obtain rfl := Option.some.inj h
      exact hd hport.isScalar

end Profile

namespace Store

variable {order : List Profile.Field} {s : Store}

/-- The store as JSON, with the fields of its profiles in an order. -/
def jsonIn (order : List Profile.Field) (s : Store) : Json :=
  .obj (s.entries.map fun e => (e.1, e.2.jsonIn order))

/-- The roles stand in the text in the order of the store. -/
theorem parse?_jsonIn (order : List Profile.Field) (s : Store) :
    Document.parse? (s.jsonIn order).text.toList =
      some (.obj (s.entries.map fun e => (some e.1, e.2.formIn order))) := by
  rw [text, String.toList_ofList]
  refine WrittenAs.parse? (writtenAs_obj ?_)
  rw [List.forall₂_map_left_iff, List.forall₂_map_right_iff, List.forall₂_same]
  exact fun e _ => ⟨rfl, Profile.writtenAs_jsonIn e.2⟩

theorem ofJsonText?_jsonIn (horder : order.Perm Profile.fields) (s : Store) :
    ofJsonText? (s.jsonIn order).text = some s := by
  rw [ofJsonText?, parse?_jsonIn, Option.bind_some, ofDocument?_eq_some_iff]
  refine ⟨_, s.entries, rfl, ?_, Keyed.ext_entries (Entries.ofList_of_sorted s.sorted)⟩
  rw [List.forall₂_map_left_iff, List.forall₂_same]
  exact fun e _ => ⟨rfl, Profile.isForm_formIn horder e.2⟩

theorem ofJsonText?_jsonText (s : Store) : ofJsonText? s.jsonText = some s := by
  have horder : [.host, .name, .password, .port, .user].Perm Profile.fields := by decide
  exact ofJsonText?_jsonIn horder s

/-- A store is read back from its text, in which its roles increase by octet as they do in the
store. A port may be written as a number or as the string of its digits. Of several profiles for one
role the last counts, and a profile without a field, or with a port that is no scalar, fails the
text. -/
theorem ofJsonText?_exact :
    (∀ s : Store, ofJsonText? s.jsonText = some s ∧
      (s.keys.Pairwise fun a b => Bytes.ofText a < Bytes.ofText b) ∧
      ∀ order : List Profile.Field, order.Perm Profile.fields →
        ofJsonText? (s.jsonIn order).text = some s ∧
        ∃ members, Document.parse? (s.jsonIn order).text.toList = some (.obj members) ∧
          members.map (·.1) = s.keys.map some) ∧
    (∀ (n : UInt64) (before digits rest : List Char), AtPort before →
      IsString digits (Text.natText n.toNat) → ∀ s,
        (ofJsonText? (.ofList (before ++ digits ++ rest)) = some s →
          ofJsonText? (.ofList (before ++ Text.decimal n.toNat ++ rest)) = some s) ∧
        (EndsNumber rest →
          ofJsonText? (.ofList (before ++ Text.decimal n.toNat ++ rest)) = some s →
          ofJsonText? (.ofList (before ++ digits ++ rest)) = some s)) ∧
    (∀ text s, ofJsonText? text = some s →
      ∃ members, Document.parse? text.toList = some (.obj members) ∧
        ∀ role p, s.get? role = some p ↔ ∃ before d after,
          members = before ++ (some role, d) :: after ∧ (∀ m ∈ after, m.1 ≠ some role) ∧
            Profile.IsForm p d) ∧
    ∀ text members, Document.parse? text.toList = some (.obj members) →
      (∃ m ∈ members, Profile.Lacking m.2) → ofJsonText? text = none := by
  refine ⟨fun s => ⟨ofJsonText?_jsonText s, s.keys_increase, fun order horder =>
    ⟨ofJsonText?_jsonIn horder s, _, parse?_jsonIn order s, ?_⟩⟩,
    fun n before digits rest hport hdigits s => ⟨fun h => ?_, fun hrest h => ?_⟩,
    fun text s h => ?_, fun text members hparse hlacking => ?_⟩
  · simp [Keyed.keys]
  · -- the text that reads ends its port, so the number could stand there as well
    rw [← ofJsonText?_port hport hdigits (endsNumber_of_port hport hdigits h), h]
  · rw [ofJsonText?_port hport hdigits hrest, h]
  · obtain ⟨d, hparse, hd⟩ := Option.bind_eq_some_iff.1 h
    obtain ⟨members, es, rfl, hforms, rfl⟩ := ofDocument?_eq_some_iff.1 hd
    exact ⟨members, hparse, fun role p => get?_ofList_of_forms hforms⟩
  · -- a profile that lacks a field has no form, and every member is a profile
    obtain ⟨m, hm, hlacking⟩ := hlacking
    rw [Option.eq_none_iff_forall_ne_some]
    intro s h
    rw [ofJsonText?, hparse, Option.bind_some] at h
    obtain ⟨ms, es, heq, hforms, -⟩ := ofDocument?_eq_some_iff.1 h
    obtain ⟨p, hp⟩ := exists_isForm_of_mem (Document.obj.inj heq ▸ hforms) hm
    exact hlacking.not_isForm p hp

/-- A port is replaced in the text of a profile, and a profile of a name alone fails its text. -/
theorem ofJsonText?_exact_replaced :
    (∃ s : Store,
      ofJsonText? (.ofList ("\x7b\"é\":\x7b\"port\":".toList ++ stringText "5432" ++
        ",\"host\":\"\",\"name\":\"\",\"user\":\"\",\"password\":\"\"\x7d\x7d".toList)) = some s ∧
      ofJsonText? (.ofList ("\x7b\"é\":\x7b\"port\":".toList ++ Text.decimal 5432 ++
        ",\"host\":\"\",\"name\":\"\",\"user\":\"\",\"password\":\"\"\x7d\x7d".toList)) = some s) ∧
    ofJsonText? "\x7b\"é\":\x7b\"name\":\"a\"\x7d\x7d" = none := by
  obtain ⟨-, hreplace, -, hlacking⟩ := ofJsonText?_exact
  constructor
  · have hport : AtPort "\x7b\"é\":\x7b\"port\":".toList :=
      ⟨_, _, _, [.openObject, .str (some "é"), .colon, .openObject, .str (some "port"), .colon],
        by decide +kernel, by simp, rfl⟩
    have hdigits : IsString (stringText "5432") (Text.natText 5432) := by
      have htext : Text.natText 5432 = "5432" := by decide +kernel
      exact htext ▸ isString_stringText "5432"
    obtain ⟨s, hs⟩ := Option.isSome_iff_exists.1 (show (ofJsonText? (.ofList
      ("\x7b\"é\":\x7b\"port\":".toList ++ stringText "5432" ++
        ",\"host\":\"\",\"name\":\"\",\"user\":\"\",\"password\":\"\"\x7d\x7d".toList))).isSome
      by decide +kernel)
    exact ⟨s, hs, (hreplace 5432 _ _ _ hport hdigits s).1 hs⟩
  · have htokens : Token.all? "\x7b\"é\":\x7b\"name\":\"a\"\x7d\x7d".toList =
        some [.openObject, .str (some "é"), .colon, .openObject, .str (some "name"), .colon,
          .str (some "a"), .closeObject, .closeObject] := by
      decide +kernel
    refine hlacking _ [(some "é", .obj [(some "name", .str (some "a"))])] ?_
      ⟨_, List.mem_singleton_self _, .member (f := .port) (by simp [Profile.Field.label])⟩
    rw [Document.parse?, htokens]
    rfl

end Store

end PgRole
