import PgRole.Proofs.Credentials.StoreReading
import PgRole.Proofs.Json.Prefix

/-!
# Ports written in two ways

A port may be written as a number or as the string of its digits, and the store is the same. What is
read behind the port does not depend on it: two readers that differ in how ports were written make
the same steps and stay alike (`SamePlace.step`), so that what they read in the end differs in this
only (`SamePlace.run`), which is nothing to the store (`SameStore.ofDocument?_eq`).
-/

namespace PgRole.Store

open Json Json.Document

/-! ## The same but for the writing of ports -/

/-- Members of a profile that are equal, or write one port. -/
inductive SameField : Option String × Document → Option String × Document → Prop where
  | refl (m : Option String × Document) : SameField m m
  | port {s : String} {d d' : Document} (h : Profile.IsText .port s d)
    (h' : Profile.IsText .port s d') : SameField (some "port", d) (some "port", d')

/-- Profiles that are equal but for the port. -/
inductive SameProfile : Document → Document → Prop where
  | refl (d : Document) : SameProfile d d
  | obj {ms ms' : List (Option String × Document)} (h : List.Forall₂ SameField ms ms') :
    SameProfile (.obj ms) (.obj ms')

/-- Roles whose profiles are equal but for the port. -/
def SameRole (m m' : Option String × Document) : Prop := m.1 = m'.1 ∧ SameProfile m.2 m'.2

/-- Stores that are equal but for ports. -/
inductive SameStore : Document → Document → Prop where
  | refl (d : Document) : SameStore d d
  | obj {ms ms' : List (Option String × Document)} (h : List.Forall₂ SameRole ms ms') :
    SameStore (.obj ms) (.obj ms')

/-- The texts of the fields do not depend on how a port is written. -/
theorem memberTexts?_eq_of_same {ms ms' : List (Option String × Document)}
    (h : List.Forall₂ SameField ms ms') : Profile.memberTexts? ms = Profile.memberTexts? ms' := by
  induction h with
  | nil => rfl
  | @cons m m' ms ms' hm _ ih =>
    cases hm with
    | refl =>
      obtain ⟨name, d⟩ := m
      simp only [Profile.memberTexts?, ih]
    | port hd hd' =>
      show Profile.memberTexts? ((some Profile.Field.port.label, _) :: ms) =
        Profile.memberTexts? ((some Profile.Field.port.label, _) :: ms')
      rw [Profile.memberTexts?_field, Profile.memberTexts?_field,
        Profile.fieldText?_eq_some_iff.2 hd, Profile.fieldText?_eq_some_iff.2 hd', ih]

theorem SameProfile.ofDocument?_eq {d d' : Document} (h : SameProfile d d') :
    Profile.ofDocument? d = Profile.ofDocument? d' := by
  cases h with
  | refl => rfl
  | obj h => rw [Profile.ofDocument?, Profile.ofDocument?, memberTexts?_eq_of_same h]

/-- Nor do the profiles of a store. -/
theorem entries?_eq_of_same {ms ms' : List (Option String × Document)}
    (h : List.Forall₂ SameRole ms ms') : entries? ms = entries? ms' := by
  induction h with
  | nil => rfl
  | @cons m m' ms ms' hm _ ih =>
    obtain ⟨name, d⟩ := m
    obtain ⟨name', d'⟩ := m'
    obtain ⟨rfl, hd⟩ : name = name' ∧ SameProfile d d' := hm
    simp only [entries?, hd.ofDocument?_eq, ih]

theorem SameStore.ofDocument?_eq {d d' : Document} (h : SameStore d d') :
    ofDocument? d = ofDocument? d' := by
  cases h with
  | refl => rfl
  | obj h => rw [ofDocument?, ofDocument?, entries?_eq_of_same h]

/-! ## Two readers -/

/-- Members of an object that are the same, by what is open around it: roles where nothing is,
fields where one object is. -/
def SameMember : List Frame → Option String × Document → Option String × Document → Prop
  | [] => SameRole
  | [.member _ _] => SameField
  | _ => Eq

theorem sameMember_refl (outer : List Frame) (m : Option String × Document) :
    SameMember outer m m := by
  unfold SameMember
  split
  · exact ⟨rfl, .refl _⟩
  · exact .refl m
  · rfl

/-- Open lists and objects with the same before them. -/
inductive SameOuter : List Frame → List Frame → Prop where
  | nil : SameOuter [] []
  | item {before : List Document} {outer outer' : List Frame} (h : SameOuter outer outer') :
    SameOuter (.item before :: outer) (.item before :: outer')
  | member {before before' : List (Option String × Document)} {name : Option String}
    {outer outer' : List Frame} (hb : List.Forall₂ (SameMember outer) before before')
    (h : SameOuter outer outer') :
    SameOuter (.member before name :: outer) (.member before' name :: outer')

/-- Documents at hand that are the same, by what is open around them. -/
def SameDone : List Frame → Document → Document → Prop
  | [], d, d' => SameStore d d'
  | .item _ :: _, d, d' => d = d'
  | .member _ name :: outer, d, d' => SameMember outer (name, d) (name, d')

theorem sameDone_refl (outer : List Frame) (d : Document) : SameDone outer d d := by
  unfold SameDone
  split
  · exact .refl d
  · rfl
  · exact sameMember_refl _ _

theorem sameDone_of_eq {outer : List Frame} {ms ms' : List (Option String × Document)}
    (h : List.Forall₂ (· = ·) ms ms') : SameDone outer (.obj ms) (.obj ms') := by
  rw [List.forall₂_eq_eq_eq] at h
  rw [h]
  exact sameDone_refl _ _

theorem sameDone_obj {outer : List Frame} {ms ms' : List (Option String × Document)}
    (h : List.Forall₂ (SameMember outer) ms ms') : SameDone outer (.obj ms) (.obj ms') := by
  match outer, h with
  | [], h => exact .obj h
  | [.member _ _], h => exact ⟨rfl, .obj h⟩
  | .item _ :: _, h => exact sameDone_of_eq h
  | .member _ _ :: _ :: _, h => exact sameDone_of_eq h

/-- Places that differ in how ports before them are written only. -/
inductive SamePlace : Place → Place → Prop where
  | value {outer outer' : List Frame} (h : SameOuter outer outer') :
    SamePlace (.value outer) (.value outer')
  | firstItem {outer outer' : List Frame} (h : SameOuter outer outer') :
    SamePlace (.firstItem outer) (.firstItem outer')
  | firstName {outer outer' : List Frame} (h : SameOuter outer outer') :
    SamePlace (.firstName outer) (.firstName outer')
  | memberName {before before' : List (Option String × Document)} {outer outer' : List Frame}
    (hb : List.Forall₂ (SameMember outer) before before') (h : SameOuter outer outer') :
    SamePlace (.memberName before outer) (.memberName before' outer')
  | colon {before before' : List (Option String × Document)} {name : Option String}
    {outer outer' : List Frame} (hb : List.Forall₂ (SameMember outer) before before')
    (h : SameOuter outer outer') :
    SamePlace (.colon before name outer) (.colon before' name outer')
  | done {d d' : Document} {outer outer' : List Frame} (hd : SameDone outer d d')
    (h : SameOuter outer outer') : SamePlace (.done d outer) (.done d' outer')

theorem sameOuter_refl (outer : List Frame) : SameOuter outer outer := by
  induction outer with
  | nil => exact .nil
  | cons f outer ih =>
    cases f with
    | item before => exact .item ih
    | member before name =>
      exact .member (List.forall₂_same.2 fun m _ => sameMember_refl outer m) ih

/-- A value is begun alike in the same surroundings. -/
theorem samePlace_startValue {outer outer' : List Frame} (h : SameOuter outer outer') (t : Token) :
    Option.Rel SamePlace (Place.startValue outer t) (Place.startValue outer' t) := by
  cases t with
  | openList => exact .some (.firstItem h)
  | openObject => exact .some (.firstName h)
  | null => exact .some (.done (sameDone_refl _ _) h)
  | bool b => exact .some (.done (sameDone_refl _ _) h)
  | num l => exact .some (.done (sameDone_refl _ _) h)
  | str s => exact .some (.done (sameDone_refl _ _) h)
  | closeList => exact .none
  | closeObject => exact .none
  | comma => exact .none
  | colon => exact .none

/-- A token takes places that are the same to places that are, or is none there. -/
theorem SamePlace.step {p p' : Place} (h : SamePlace p p') (t : Token) :
    Option.Rel SamePlace (p.step t) (p'.step t) := by
  -- a token does the same in both places: only what was read at a port differs
  cases h with
  | value h => exact samePlace_startValue h t
  | firstItem h =>
    unfold Place.step
    dsimp only
    split_ifs
    · exact .some (.done (sameDone_refl _ _) h)
    · exact samePlace_startValue (.item h) t
  | firstName h =>
    cases t with
    | closeObject => exact .some (.done (sameDone_refl _ _) h)
    | str s => exact .some (.colon .nil h)
    | _ => exact .none
  | memberName hb h =>
    cases t with
    | str s => exact .some (.colon hb h)
    | _ => exact .none
  | colon hb h =>
    unfold Place.step
    dsimp only
    split_ifs
    · exact .some (.value (.member hb h))
    · exact .none
  | @done d d' outer outer' hd h =>
    cases h with
    | nil => exact .none
    | item h =>
      obtain rfl : d = d' := hd
      cases t with
      | comma => exact .some (.value (.item h))
      | closeList => exact .some (.done (sameDone_refl _ _) h)
      | _ => exact .none
    | member hb h =>
      cases t with
      | comma => exact .some (.memberName (.cons hd hb) h)
      | closeObject =>
        exact .some (.done (sameDone_obj (List.forall₂_reverse_iff.2 (.cons hd hb))) h)
      | _ => exact .none

/-- Tokens lead from places that are the same to documents that are. -/
theorem SamePlace.run {p p' : Place} (h : SamePlace p p') (ts : List Token) :
    Option.Rel SameStore (Document.run ts p) (Document.run ts p') := by
  induction ts generalizing p p' with
  | nil =>
    cases h with
    | done hd h =>
      cases h with
      | nil => exact .some hd
      | item => exact .none
      | member => exact .none
    | _ => exact .none
  | cons t ts ih =>
    unfold Document.run
    have hstep := h.step t
    generalize p.step t = q at hstep
    generalize p'.step t = q' at hstep
    cases hstep with
    | none => exact .none
    | some hq => exact ih hq

/-- Whatever stands behind, the store is the same. -/
theorem SamePlace.resume? {p p' : Place} (h : SamePlace p p') (rest : List Char) :
    (Document.resume? rest p).bind ofDocument? = (Document.resume? rest p').bind ofDocument? := by
  unfold Document.resume?
  cases Token.all? rest with
  | none => rfl
  | some ts =>
    have hrun := h.run ts
    simp only [Option.bind_some]
    generalize Document.run ts p = x at hrun
    generalize Document.run ts p' = x' at hrun
    cases hrun with
    | none => rfl
    | some hd => exact hd.ofDocument?_eq

/-! ## The value of a port in a text -/

/-- Characters lead to where the value of a port is due, in a profile of a store. -/
def AtPort (cs : List Char) : Prop :=
  ∃ fields profiles role,
    Leads cs (.value []) (.value [.member fields (some "port"), .member profiles role])

variable {before digits rest : List Char} {n : UInt64} {s : Store}

/-- The digits of an integer of 64 bits are read as this integer. -/
theorem exists_literal_of_decimal (n : UInt64) : ∃ l,
    Literal.read? (Text.decimal n.toNat) = some (l, []) ∧ l.value? = some (.ofUInt64 n) := by
  have hrange : minInt ≤ (n.toNat : Int) ∧ (n.toNat : Int) ≤ maxInt := by
    have := n.toNat_lt
    simp only [minInt, maxInt]
    omega
  obtain ⟨l, hread, hvalue⟩ := Number.readsBack_iff.1 (Number.readsBack_int n.toNat hrange)
  have htext : (Number.int n.toNat hrange).text = Text.decimal n.toNat := String.toList_ofList
  exact ⟨l, htext ▸ hread, hvalue⟩

/-- A port in quotes is read as the number is. -/
theorem ofJsonText?_port (hport : AtPort before)
    (hdigits : IsString digits (Text.natText n.toNat)) (hrest : EndsNumber rest) :
    ofJsonText? (String.ofList (before ++ digits ++ rest)) =
      ofJsonText? (String.ofList (before ++ Text.decimal n.toNat ++ rest)) := by
  obtain ⟨fields, profiles, role, hleads⟩ := hport
  obtain ⟨l, hread, hvalue⟩ := exists_literal_of_decimal n
  let outer : List Frame := [.member fields (some "port"), .member profiles role]
  have hsame :
      SamePlace (.done (.str (some (Text.natText n.toNat))) outer) (.done (.num l) outer) :=
    .done (.port (.str _) (.num rfl hvalue)) (sameOuter_refl outer)
  show (Document.resume? _ _).bind ofDocument? = (Document.resume? _ _).bind ofDocument?
  rw [String.toList_ofList, String.toList_ofList, List.append_assoc, List.append_assoc,
    hleads.resume?, hleads.resume?, resume?_string hdigits, resume?_number hread _ hrest]
  exact hsame.resume? rest

/-- Behind a port that is written as a string no number goes on. -/
theorem endsNumber_of_port (hport : AtPort before) {text : String} (hdigits : IsString digits text)
    (h : ofJsonText? (String.ofList (before ++ digits ++ rest)) = some s) : EndsNumber rest := by
  obtain ⟨fields, profiles, role, hleads⟩ := hport
  obtain ⟨doc, hdoc, -⟩ := Option.bind_eq_some_iff.1 h
  replace hdoc : Document.resume? _ _ = some doc := hdoc
  rw [String.toList_ofList, List.append_assoc, hleads.resume?, resume?_string hdigits] at hdoc
  exact endsNumber_of_resume? hdoc

end PgRole.Store
