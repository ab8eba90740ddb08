import PgRole.Proofs.Sql.Template

/-!
# Texts without values

Without values a text is passed as it stands, unless it has a name in parentheses that close:
`compile_verbatim_iff`. A slot of a template has such a name, so it is never passed; but neither are
names that no format follows and names without characters, as in `17 %(5)`.

A percent sign counts where the scan of the text comes to it, which takes a doubled one in one step
(`Reaches`).
-/

namespace PgRole.Sql

/-- The scan of a text comes to a rest of it, by one character at a time and by two at a doubled
percent sign. -/
inductive Reaches : List Char → List Char → Prop
  | here {cs : List Char} : Reaches cs cs
  | percent {r s : List Char} (h : Reaches r s) : Reaches ('%' :: '%' :: r) s
  | step {c : Char} {r s : List Char} (hc : c = '%' → r.head? ≠ some '%') (h : Reaches r s) :
    Reaches (c :: r) s

/-- A text has a name in parentheses behind a percent sign. -/
def HasName (cs : List Char) (name : List Char) : Prop :=
  ')' ∉ name ∧ ∃ after, Reaches cs ('%' :: '(' :: name ++ ')' :: after)

/-- A text has a slot: a name in parentheses that has characters and a format behind it. -/
def HasSlot (cs : List Char) : Prop :=
  ∃ name f after, name ≠ [] ∧ ')' ∉ name ∧ f ∈ Placeholder.formats ∧
    Reaches cs ('%' :: '(' :: name ++ ')' :: f :: after)

theorem HasSlot.hasName {cs : List Char} (h : HasSlot cs) : ∃ name, HasName cs name := by
  obtain ⟨name, f, after, -, hclosed, -, h⟩ := h
  exact ⟨name, hclosed, f :: after, h⟩

/-! ## One step of the scan -/

theorem Reaches.suffix {cs s : List Char} (h : Reaches cs s) : s <:+ cs := by
  induction h with
  | here => exact List.suffix_rfl
  | percent _ ih => exact (ih.trans (List.suffix_cons _ _)).trans (List.suffix_cons _ _)
  | step _ _ ih => exact ih.trans (List.suffix_cons _ _)

theorem hasName_percent {r name : List Char} : HasName ('%' :: '%' :: r) name ↔ HasName r name := by
  refine and_congr_right fun _ => exists_congr fun after => ⟨fun h => ?_, .percent⟩
  cases h with
  | percent h => exact h
  | step hc h => exact absurd rfl (hc rfl)

/-- A character that begins no name in parentheses and no doubled percent sign is passed. -/
theorem hasName_cons {c : Char} {r name : List Char}
    (hc : c = '%' → r.head? ≠ some '%' ∧ r.head? ≠ some '(') :
    HasName (c :: r) name ↔ HasName r name := by
  refine and_congr_right fun _ => exists_congr fun after => ⟨fun h => ?_, .step fun h => (hc h).1⟩
  cases h with
  | here => exact absurd rfl (hc rfl).2
  | percent h => exact absurd rfl (hc rfl).1
  | step _ h => exact h

/-- A percent sign in front of any other character but a parenthesis is passed. -/
theorem hasName_percent_cons {c : Char} {r name : List Char} (hpercent : c ≠ '%')
    (hparen : c ≠ '(') :
    HasName ('%' :: c :: r) name ↔ HasName (c :: r) name :=
  hasName_cons fun _ => by simpa using ⟨hpercent, hparen⟩

/-- Behind an opening parenthesis a name goes up to the first that closes; if none closes, there is
no name at all. -/
theorem not_hasName_of_not_mem {r name : List Char} (h : ')' ∉ r) :
    ¬ HasName ('%' :: '(' :: r) name := by
  rintro ⟨-, after, hr⟩
  have hmem : ')' ∈ '%' :: '(' :: r := hr.suffix.subset (by simp)
  simp [h] at hmem

/-! ## The scan for pieces -/

/-- Inside parentheses the scan gives the name up to the first that closes. -/
theorem firstName?_split_some (before cs : List Char) :
    Placeholder.firstName? (Piece.split (some before) cs) =
      if ')' ∈ cs then some (String.ofList (before.reverse ++ cs.takeWhile (· ≠ ')')))
      else none := by
  induction cs generalizing before with
  | nil => rfl
  | cons c cs ih =>
    by_cases hc : c = ')'
    · subst hc
      cases cs with
      | nil => simp [Piece.split, Placeholder.firstName?, Piece.name?]
      | cons d r =>
        rw [Piece.split]
        split <;> simp [Placeholder.firstName?, Piece.name?, List.findSome?_cons]
    · have hstep : Piece.split (some before) (c :: cs) = Piece.split (some (c :: before)) cs := by
        rw [Piece.split]
        · exact fun _ _ h => absurd h hc
        · exact fun h => absurd h hc
      rw [hstep, ih]
      simp [hc, Ne.symm hc]

/-- A name that a text has, or that it has none. -/
def Names (cs : List Char) : Option String → Prop
  | some n => ∃ name, n = String.ofList name ∧ HasName cs name
  | none => ∀ name, ¬ HasName cs name

theorem Names.congr {cs r : List Char} {o : Option String}
    (h : ∀ name, HasName cs name ↔ HasName r name) (hr : Names r o) : Names cs o := by
  cases o with
  | none => exact fun name => (not_congr (h name)).2 (hr name)
  | some n =>
    obtain ⟨name, hn, hname⟩ := hr
    exact ⟨name, hn, (h name).2 hname⟩

theorem not_hasName_nil (name : List Char) : ¬ HasName [] name := by
  rintro ⟨-, after, h⟩
  exact absurd h.suffix (by simp)

/-- What the scan for pieces takes for the first name. The induction is on the scan outside of
parentheses; inside them `firstName?_split_some` says how it goes on. -/
theorem names_firstName? (cs : List Char) :
    Names cs (Placeholder.firstName? (Piece.split none cs)) := by
  -- outside a placeholder only, though the scan recurses inside as well
  generalize hi : (none : Option (List Char)) = inside
  fun_induction Piece.split inside cs with
  | case1 => exact not_hasName_nil
  | case2 r ih => exact .congr (fun name => hasName_percent) (ih rfl)
  | case3 r _ =>
    rw [firstName?_split_some, List.reverse_nil, List.nil_append]
    by_cases hclosed : ')' ∈ r
    · rw [if_pos hclosed]
      obtain ⟨before, after, rfl, hbefore⟩ := List.eq_append_cons_of_mem hclosed
      refine ⟨before, ?_, hbefore, after, .here⟩
      rw [List.takeWhile_append_of_pos fun c hc => by simpa using ne_of_mem_of_not_mem hc hbefore]
      simp
    · rw [if_neg hclosed]
      exact fun name => not_hasName_of_not_mem hclosed
  | case4 c r hpercent hparen _ ih =>
    refine .congr (fun name => ?_) (ih rfl)
    rw [hasName_percent_cons hpercent hparen, hasName_cons fun h => absurd h hpercent]
  | case5 c r hpercent hparen _ ih =>
    exact .congr (fun name => hasName_percent_cons hpercent hparen) (ih rfl)
  | case6 =>
    exact .congr (r := []) (fun name => hasName_cons fun _ => by simp) not_hasName_nil
  | case7 c r _ _ hcons hnil ih =>
    have hc : c ≠ '%' := by
      rintro rfl
      cases r with
      | nil => exact hnil rfl rfl
      | cons d r => exact hcons d r rfl rfl
    exact .congr (fun name => hasName_cons fun h => absurd h hc) (ih rfl)
  | case8 | case9 | case10 | case11 | case12 => cases hi

/-! ## Compiling without values -/

/-- No values at all are as good as an empty table of them. -/
theorem compile_eq_compilePlain (sql : String) {params : Option Params}
    (hp : params.all fun ps => ps.isEmpty) :
    compile sql params = Placeholder.compilePlain sql := by
  cases params with
  | none => rfl
  | some ps =>
    have hempty : ps.isEmpty = true := hp
    rw [compile, if_pos hempty]

/-- Without values a text is passed as it stands, with no arguments, exactly if it has no name in
parentheses that close; a text that has one is refused for one of its names. So a text with a slot
is never passed, and a text that is refused without a slot has a name that makes none. -/
theorem compile_verbatim_iff (sql : String) {params : Option Params}
    (hp : params.all fun ps => ps.isEmpty) :
    (compile sql params = .ok ⟨sql, []⟩ ↔ ∀ name, ¬ HasName sql.toList name) ∧
      ((∃ name, HasName sql.toList name ∧
        compile sql params = .error (.withoutParams (String.ofList name))) ↔
          ∃ name, HasName sql.toList name) ∧
      (HasSlot sql.toList → ∃ m,
        (compile sql params).mapError Placeholder.Fault.error = .error (.invalidArgument m)) := by
  have hc : compile sql params = Placeholder.compilePlain sql := compile_eq_compilePlain sql hp
  have hnames : Names sql.toList (Placeholder.firstName? (Piece.all sql.toList)) :=
    names_firstName? sql.toList
  rw [Placeholder.compilePlain] at hc
  cases hfirst : Placeholder.firstName? (Piece.all sql.toList) with
  | none =>
    rw [hfirst] at hc hnames
    have hnone : ¬ ∃ name, HasName sql.toList name := fun ⟨name, h⟩ => hnames name h
    exact ⟨iff_of_true hc hnames, iff_of_false (fun ⟨name, h, _⟩ => hnames name h) hnone,
      fun hslot => absurd hslot.hasName hnone⟩
  | some n =>
    rw [hfirst] at hc hnames
    obtain ⟨name, rfl, hname⟩ := hnames
    refine ⟨iff_of_false (fun h => ?_) (fun h => h name hname),
      iff_of_true ⟨name, hname, hc⟩ ⟨name, hname⟩, fun _ => ⟨_, congrArg _ hc⟩⟩
    cases hc.symm.trans h

/-- A slot behind a doubled percent sign, and a table without values. -/
theorem compile_verbatim_iff_slot :
    (some (Keyed.ofList []) : Option Params).all (fun ps => ps.isEmpty) ∧
      HasSlot "5%%%(id)s".toList ∧
      ∃ m, (compile "5%%%(id)s" (some (Keyed.ofList []))).mapError Placeholder.Fault.error =
        .error (.invalidArgument m) := by
  have hp : (some (Keyed.ofList []) : Option Params).all (fun ps => ps.isEmpty) := by decide
  have hslot : HasSlot "5%%%(id)s".toList := by
    refine ⟨['i', 'd'], 's', [], by decide, by decide, by decide, .step (by decide) ?_⟩
    exact .percent .here
  exact ⟨hp, hslot, (compile_verbatim_iff "5%%%(id)s" hp).2.2 hslot⟩

/-- A text without a slot that is not passed: the remainder by an expression in parentheses. -/
theorem not_compile_verbatim :
    ¬ HasSlot "SELECT 17 %(5)".toList ∧
      compile "SELECT 17 %(5)" none = .error (.withoutParams "5") := by
  constructor
  · rintro ⟨name, f, after, -, -, hf, hreaches⟩
    have hmem : f ∈ "SELECT 17 %(5)".toList := hreaches.suffix.subset (by simp)
    have habsent : ∀ f ∈ Placeholder.formats, f ∉ "SELECT 17 %(5)".toList := by
      simp [Placeholder.formats]
    exact habsent f hf hmem
  · cbv

end PgRole.Sql
