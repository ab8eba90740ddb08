import Mathlib.Data.List.Forall2
import PgRole.Credentials.Reference
import PgRole.Proofs.Text.Span

/-!
# What a reference is

`IsReference` says which texts are references, and `Scans` how a text falls into references and
other characters: from its start on, each reference as early as one begins. Both are about texts
only. `scans_iff` says that `pieces` finds just these; so `resolve` gives the text in which every
reference stands replaced (`resolve_eq_ok_iff`), or the names that are not set
(`resolve_eq_error_iff`). A text with a reference is never taken for one without
(`mayRefer_of_hasReference`).
-/

namespace PgRole.Credentials

open Text

/-! ## References -/

/-- A text is a reference to the variable with a name. -/
def IsReference (cs name : List Char) : Prop :=
  ∃ first others before after, name = first :: others ∧ isNameStart first ∧
    (∀ c ∈ others, isNameChar c) ∧ (∀ c ∈ before, isBlank c) ∧ (∀ c ∈ after, isBlank c) ∧
    cs = '\x7b' :: '\x7b' :: before ++ 'e' :: 'n' :: 'v' :: '.' :: name ++ after ++
      ['\x7d', '\x7d']

/-- No character of a name is blank. -/
theorem not_isBlank_of_isNameChar {c : Char} (h : isNameChar c) : isBlank c = false := by
  have hrange : 0x30 ≤ c.toNat ∧ c.toNat ≤ 0x7A := by
    replace h : (((decide ('A' ≤ c ∧ c ≤ 'Z') || decide ('a' ≤ c) && decide (c ≤ 'z')) ||
      decide ('0' ≤ c) && decide (c ≤ '9')) || c == '_') = true := h
    simp only [Bool.or_eq_true, Bool.and_eq_true, decide_eq_true_eq, beq_iff_eq] at h
    rcases h with ((h | h) | h) | rfl
    · exact ⟨le_trans (by decide) h.1, le_trans h.2 (by decide)⟩
    · exact ⟨le_trans (by decide) h.1, le_trans h.2 (by decide)⟩
    · exact ⟨le_trans (by decide) h.1, le_trans h.2 (by decide)⟩
    · decide
  simp only [isBlank, CharSet.contains, blanks, List.any_cons, List.any_nil, Bool.or_false,
    Bool.or_eq_false_iff, Bool.and_eq_false_iff, decide_eq_false_iff_not]
  omega

/-- A reference is closed by two braces, behind any blanks. -/
theorem readClose?_eq_some_iff {cs r : List Char} : readClose? cs = some r ↔
    ∃ after, (∀ c ∈ after, isBlank c) ∧ cs = after ++ '\x7d' :: '\x7d' :: r := by
  have hbrace : ∀ c ∈ ('\x7d' :: '\x7d' :: r).head?, isBlank c = false := by
    rintro _ ⟨⟩
    decide
  rw [← trimStart_eq_iff hbrace, readClose?]
  constructor
  · intro h
    split at h
    · cases h
      assumption
    · cases h
  · intro h
    simp only [h]

/-- The name in a reference is the longest that there is, and the braces close behind it. -/
theorem readName?_eq_some_iff {cs name r : List Char} : readName? cs = some (name, r) ↔
    ∃ first others after, name = first :: others ∧ isNameStart first ∧
      (∀ c ∈ others, isNameChar c) ∧ (∀ c ∈ after, isBlank c) ∧
      cs = name ++ after ++ '\x7d' :: '\x7d' :: r := by
  cases cs with
  | nil => simp [readName?]
  | cons c cs =>
    simp only [readName?, Option.ite_none_right_eq_some, Option.map_eq_some_iff, Prod.mk.injEq,
      readClose?_eq_some_iff]
    constructor
    · rintro ⟨hc, r', ⟨after, hafter, hcs⟩, rfl, rfl⟩
      refine ⟨c, _, after, rfl, hc, fun x hx => List.mem_takeWhile_imp hx, hafter, ?_⟩
      rw [List.cons_append, List.cons_append, List.append_assoc, ← hcs,
        List.takeWhile_append_dropWhile]
    · rintro ⟨first, others, after, rfl, hfirst, hothers, hafter, hcs⟩
      rw [List.cons_append, List.cons_append, List.append_assoc] at hcs
      obtain ⟨rfl, rfl⟩ := List.cons.inj hcs
      -- behind the name stands a blank or a brace, which no name goes on with
      have hend : ∀ x ∈ (after ++ '\x7d' :: '\x7d' :: r).head?, isNameChar x = false := by
        intro x hx
        cases after with
        | nil =>
          cases hx
          decide
        | cons a after =>
          cases hx
          by_contra hname
          have := not_isBlank_of_isNameChar (by simpa using hname)
          rw [hafter x List.mem_cons_self] at this
          cases this
      rw [takeWhile_run hothers hend, dropWhile_run hothers hend]
      exact ⟨hfirst, r, ⟨after, hafter, rfl⟩, rfl, rfl⟩

/-- A reference is read where one stands. -/
theorem readReference?_eq_some_iff {cs name r : List Char} : readReference? cs = some (name, r) ↔
    ∃ t, IsReference t name ∧ cs = t ++ r := by
  constructor
  · intro h
    unfold readReference? at h
    split at h
    · rename_i r₁
      split at h
      · rename_i r₂ htrim
        obtain ⟨before, hbefore, rfl⟩ := (trimStart_eq_iff (by
          rintro _ ⟨⟩
          decide)).1 htrim
        obtain ⟨first, others, after, rfl, hfirst, hothers, hafter, rfl⟩ :=
          readName?_eq_some_iff.1 h
        refine ⟨_, ⟨first, others, before, after, rfl, hfirst, hothers, hbefore, hafter, rfl⟩, ?_⟩
        simp
      · cases h
    · cases h
  · rintro ⟨t, ⟨first, others, before, after, rfl, hfirst, hothers, hbefore, hafter, rfl⟩, rfl⟩
    let r₂ := first :: others ++ after ++ '\x7d' :: '\x7d' :: r
    have htrim : trimStart (before ++ 'e' :: 'n' :: 'v' :: '.' :: r₂) =
        'e' :: 'n' :: 'v' :: '.' :: r₂ := by
      refine (trimStart_eq_iff ?_).2 ⟨before, hbefore, rfl⟩
      rintro _ ⟨⟩
      decide
    have hname : readName? r₂ = some (first :: others, r) :=
      readName?_eq_some_iff.2 ⟨first, others, after, rfl, hfirst, hothers, hafter, rfl⟩
    have hcs : ('\x7b' :: '\x7b' :: before ++ 'e' :: 'n' :: 'v' :: '.' :: first :: others ++ after ++
        ['\x7d', '\x7d']) ++ r =
        '\x7b' :: '\x7b' :: (before ++ 'e' :: 'n' :: 'v' :: '.' :: r₂) := by
      simp [r₂]
    rw [hcs]
    simp only [readReference?, htrim, hname]

/-! ## Texts with references -/

/-- How a text falls into references and other characters. -/
inductive Scans : List Char → List ReferencePiece → Prop where
  | nil : Scans [] []
  | reference {t name rest : List Char} {ps : List ReferencePiece} (ht : IsReference t name)
      (h : Scans rest ps) : Scans (t ++ rest) (.reference name :: ps)
  | char {c : Char} {rest : List Char} {ps : List ReferencePiece}
      (hc : ∀ t name r, IsReference t name → c :: rest ≠ t ++ r) (h : Scans rest ps) :
      Scans (c :: rest) (.char c :: ps)

/-- A text that begins with a reference has it as its first piece. -/
theorem pieces_reference {cs name rest : List Char} (h : readReference? cs = some (name, rest)) :
    pieces cs = .reference name :: pieces rest := by
  cases cs with
  | nil => cases h
  | cons c r =>
    rw [pieces]
    split
    · rename_i heq
      rw [h] at heq
      cases heq
      rfl
    · rename_i heq
      rw [h] at heq
      cases heq

/-- A text that does not has its first character. -/
theorem pieces_char {c : Char} {r : List Char} (h : readReference? (c :: r) = none) :
    pieces (c :: r) = .char c :: pieces r := by
  rw [pieces]
  split
  · rename_i heq
    rw [h] at heq
    cases heq
  · rfl

/-- Every text falls into its pieces. -/
theorem scans_pieces (cs : List Char) : Scans cs (pieces cs) := by
  induction hn : cs.length using Nat.strong_induction_on generalizing cs with
  | _ n ih =>
    cases cs with
    | nil =>
      rw [pieces]
      exact .nil
    | cons c r =>
      cases h : readReference? (c :: r) with
      | none =>
        rw [pieces_char h]
        refine .char (fun t name r' ht heq => ?_) (ih _ (by simp [← hn]) r rfl)
        rw [readReference?_eq_some_iff.2 ⟨t, ht, heq⟩] at h
        cases h
      | some found =>
        obtain ⟨name, rest⟩ := found
        rw [pieces_reference h]
        obtain ⟨t, ht, heq⟩ := readReference?_eq_some_iff.1 h
        rw [heq]
        exact .reference ht (ih _ (hn ▸ readReference?_length h) rest rfl)

/-- A text falls into pieces in one way. -/
theorem scans_iff {cs : List Char} {ps : List ReferencePiece} : Scans cs ps ↔ pieces cs = ps := by
  constructor
  · intro h
    induction h with
    | nil => rw [pieces]
    | reference ht h ih => rw [pieces_reference (readReference?_eq_some_iff.2 ⟨_, ht, rfl⟩), ih]
    | @char c rest ps hc h ih =>
      have hnone : readReference? (c :: rest) = none := by
        cases hr : readReference? (c :: rest) with
        | none => rfl
        | some found =>
          obtain ⟨t, ht, heq⟩ := readReference?_eq_some_iff.1 hr
          exact absurd heq (hc t found.1 found.2 ht)
      rw [pieces_char hnone, ih]
  · rintro rfl
    exact scans_pieces cs

/-- The variable that a piece refers to. -/
def ReferencePiece.name? : ReferencePiece → Option String
  | char _ => none
  | reference name => some (String.ofList name)

theorem referredNames_eq (s : String) :
    referredNames s = (pieces s.toList).filterMap ReferencePiece.name? := by
  unfold referredNames
  congr 1

/-! ## Texts in an environment -/

/-- What a piece becomes where its variable is set. -/
inductive ReferencePiece.Becomes (env : Environment) : ReferencePiece → List Char → Prop where
  | char (c : Char) : Becomes env (.char c) [c]
  | reference {name : List Char} {value : String} (h : env.get? (String.ofList name) = some value) :
      Becomes env (.reference name) value.toList

/-- A text becomes another when each reference is replaced by the value of its variable and every
other character stays. -/
def Expands (env : Environment) (s t : String) : Prop :=
  ∃ ps parts, Scans s.toList ps ∧ List.Forall₂ (ReferencePiece.Becomes env) ps parts ∧
    t.toList = parts.flatten

/-- The variables of a text that are not set, in the order of their references. -/
def Lacks (env : Environment) (s : String) (names : List String) : Prop :=
  ∃ ps, Scans s.toList ps ∧
    names = (ps.filterMap ReferencePiece.name?).filter fun n => !env.contains n

variable {env : Environment} {s t : String} {names : List String}

/-- The names that a text lacks are those of its references that are not set, in their order and as
often. -/
theorem lacks_iff :
    Lacks env s names ↔ names = (referredNames s).filter fun n => !env.contains n := by
  rw [referredNames_eq]
  constructor
  · rintro ⟨ps, hps, rfl⟩
    rw [scans_iff.1 hps]
  · rintro rfl
    exact ⟨_, scans_pieces _, rfl⟩

/-- Pieces become texts just if every variable among them is set. -/
theorem becomes_iff {ps : List ReferencePiece} {parts : List (List Char)} :
    List.Forall₂ (ReferencePiece.Becomes env) ps parts ↔
      (∀ n ∈ ps.filterMap ReferencePiece.name?, env.contains n) ∧
        parts = ps.map (ReferencePiece.expand env) := by
  -- piece by piece: a character stays, and a reference is as its variable
  induction ps generalizing parts with
  | nil => simp
  | cons p ps ih =>
    rw [List.forall₂_cons_left_iff]
    constructor
    · rintro ⟨part, rest, hp, hrest, rfl⟩
      obtain ⟨hset, rfl⟩ := ih.1 hrest
      cases hp with
      | char c => exact ⟨by simpa [ReferencePiece.name?] using hset, rfl⟩
      | @reference name value h =>
        refine ⟨?_, by simp [ReferencePiece.expand, h]⟩
        simpa [ReferencePiece.name?, Keyed.contains, h] using hset
    · rintro ⟨hset, rfl⟩
      cases p with
      | char c =>
        refine ⟨[c], _, .char c, ih.2 ⟨?_, rfl⟩, rfl⟩
        simpa [ReferencePiece.name?] using hset
      | reference name =>
        have hname : env.contains (String.ofList name) := hset _ (by simp [ReferencePiece.name?])
        obtain ⟨value, hvalue⟩ := Option.isSome_iff_exists.1 hname
        refine ⟨value.toList, _, .reference hvalue, ih.2 ⟨?_, rfl⟩, ?_⟩
        · exact fun n hn => hset n (by
            rw [List.filterMap_cons]
            exact List.mem_cons_of_mem _ hn)
        · simp [ReferencePiece.expand, hvalue]

/-- A text is resolved to what it becomes. -/
theorem resolve_eq_ok_iff : resolve env s = .ok t ↔ Expands env s t := by
  have hexpands : Expands env s t ↔ (∀ n ∈ referredNames s, env.contains n) ∧
      t.toList = (pieces s.toList).flatMap (ReferencePiece.expand env) := by
    rw [referredNames_eq]
    constructor
    · rintro ⟨ps, parts, hps, hparts, ht⟩
      obtain ⟨hset, rfl⟩ := becomes_iff.1 hparts
      rw [scans_iff.1 hps, List.flatMap_def]
      exact ⟨hset, ht⟩
    · rintro ⟨hset, ht⟩
      rw [List.flatMap_def] at ht
      exact ⟨_, _, scans_pieces _, becomes_iff.2 ⟨hset, rfl⟩, ht⟩
  rw [hexpands, resolve]
  by_cases hset : ((referredNames s).filter fun n => !env.contains n).isEmpty
  · rw [if_pos hset]
    have hall : ∀ n ∈ referredNames s, env.contains n := by simpa using hset
    constructor
    · rintro ⟨⟩
      exact ⟨hall, String.toList_ofList⟩
    · rintro ⟨-, ht⟩
      rw [← ht, String.ofList_toList]
  · rw [if_neg hset]
    constructor
    · intro h
      cases h
    · rintro ⟨hall, -⟩
      exact absurd (by simpa using hall) hset

/-- A text that is not resolved has variables that are not set. -/
theorem resolve_eq_error_iff : resolve env s = .error names ↔ Lacks env s names ∧ names ≠ [] := by
  rw [lacks_iff, resolve]
  by_cases hset : ((referredNames s).filter fun n => !env.contains n).isEmpty
  · rw [if_pos hset]
    constructor
    · intro h
      cases h
    · rintro ⟨rfl, hne⟩
      exact absurd (List.isEmpty_iff.1 hset) hne
  · rw [if_neg hset]
    constructor
    · rintro ⟨⟩
      exact ⟨rfl, fun hnil => hset (List.isEmpty_iff.2 hnil)⟩
    · rintro ⟨rfl, -⟩
      rfl

/-- A text that lacks nothing becomes a text. -/
theorem lacks_nil_iff : Lacks env s [] ↔ ∃ t, Expands env s t := by
  constructor
  · intro h
    cases hr : resolve env s with
    | ok t => exact ⟨t, resolve_eq_ok_iff.1 hr⟩
    | error names =>
      obtain ⟨hlacks, hne⟩ := resolve_eq_error_iff.1 hr
      rw [lacks_iff] at h hlacks
      exact absurd (hlacks.trans h.symm) hne
  · rintro ⟨t, ht⟩
    rw [lacks_iff]
    have hok := resolve_eq_ok_iff.2 ht
    by_contra hne
    rw [resolve_eq_error_iff.2 ⟨lacks_iff.2 rfl, fun h => hne h.symm⟩] at hok
    cases hok

/-- A text becomes one text only. -/
theorem Expands.unique {t' : String} (h : Expands env s t) (h' : Expands env s t') : t = t' :=
  Except.ok.inj ((resolve_eq_ok_iff.2 h).symm.trans (resolve_eq_ok_iff.2 h'))

theorem Lacks.unique {names' : List String} (h : Lacks env s names) (h' : Lacks env s names') :
    names = names' := (lacks_iff.1 h).trans (lacks_iff.1 h').symm

/-! ## The look at the braces -/

theorem hasTwice_append {c : Char} {l r : List Char} :
    Profile.hasTwice c (l ++ c :: c :: r) = true := by
  induction l with
  | nil => simp [Profile.hasTwice]
  | cons a l ih =>
    cases l with
    | nil => simp [Profile.hasTwice]
    | cons b l =>
      rw [List.cons_append, List.cons_append, Profile.hasTwice]
      rw [List.cons_append] at ih
      rw [ih, Bool.or_true]

/-- A text with a reference has two braces of either kind in a row. -/
theorem hasTwice_of_scans {cs : List Char} {ps : List ReferencePiece} (h : Scans cs ps)
    (hname : ps.filterMap ReferencePiece.name? ≠ []) :
    Profile.hasTwice '\x7b' cs ∧ Profile.hasTwice '\x7d' cs := by
  obtain ⟨l, t, name, r, ht, rfl⟩ : ∃ l t name r, IsReference t name ∧ cs = l ++ (t ++ r) := by
    induction h with
    | nil => exact absurd rfl hname
    | @reference t name rest ps ht h ih => exact ⟨[], t, name, rest, ht, rfl⟩
    | @char c rest ps hc h ih =>
      obtain ⟨l, t, name, r, ht, rfl⟩ := ih hname
      exact ⟨c :: l, t, name, r, ht, rfl⟩
  obtain ⟨first, others, before, after, rfl, -, -, -, -, rfl⟩ := ht
  constructor
  · exact hasTwice_append
  · rw [List.append_assoc _ _ r, ← List.append_assoc l]
    exact hasTwice_append

/-- A text with a reference is not taken for one without. -/
theorem mayRefer_of_hasReference (h : hasReference s) : Profile.mayRefer s := by
  rw [hasReference, referredNames_eq, Bool.not_eq_true', List.isEmpty_eq_false_iff] at h
  obtain ⟨hopen, hclose⟩ := hasTwice_of_scans (scans_pieces _) h
  rw [Profile.mayRefer, hopen, hclose]
  rfl

/-- A text without a reference is its own meaning. -/
theorem resolve_of_not_hasReference (env : Environment) (h : hasReference s = false) :
    resolve env s = .ok s := by
  rw [hasReference, Bool.not_eq_false', List.isEmpty_iff] at h
  have hall : ∀ {cs : List Char} {ps : List ReferencePiece}, Scans cs ps →
      ps.filterMap ReferencePiece.name? = [] → ps.flatMap (ReferencePiece.expand env) = cs := by
    intro cs ps hscans hnames
    induction hscans with
    | nil => rfl
    | reference ht h ih => simp [ReferencePiece.name?] at hnames
    | @char c rest ps hc h ih =>
      rw [List.flatMap_cons, ih (by simpa [ReferencePiece.name?] using hnames)]
      rfl
  rw [resolve, h]
  rw [referredNames_eq] at h
  simp [hall (scans_pieces _) h]

end PgRole.Credentials
