import PgRole.Proofs.Keyed
import PgRole.Proofs.Sql.References

/-!
# The first piece at fault

A text with values for its names is cut into pieces from left to right: `Splits` says how, apart
from the scan that `compile` does, and `splits_iff` that the two agree. Where the text does not
compile, the message is that of the first piece which is not acceptable, for the first thing wrong
with it, and an offset in it counts the octets in front of that piece. Only if all pieces are
acceptable is it about values that no name refers to, which it lists in order.

* `compile_reports_first`: which message a text gets.
-/

namespace PgRole.Sql

/-! ## Pieces from left to right -/

/-- How a text falls into pieces: a placeholder goes up to the first parenthesis that closes and
takes a letter behind it; where none closes it takes the rest. -/
inductive Splits : List Char → List Piece → Prop
  | nil : Splits [] []
  | char {c : Char} {r : List Char} {ps : List Piece} (hc : c ≠ '%') (h : Splits r ps) :
    Splits (c :: r) (.char c :: ps)
  | percent {r : List Char} {ps : List Piece} (h : Splits r ps) :
    Splits ('%' :: '%' :: r) (.percent :: ps)
  | unterminated {name : List Char} (hname : ')' ∉ name) :
    Splits ('%' :: '(' :: name) [.unterminated name]
  | formatted {name r : List Char} {f : Char} {ps : List Piece} (hname : ')' ∉ name)
    (hf : f.isAlpha) (h : Splits r ps) :
    Splits ('%' :: '(' :: (name ++ ')' :: f :: r)) (.placeholder name (some f) :: ps)
  | bare {name r : List Char} {ps : List Piece} (hname : ')' ∉ name)
    (hr : ∀ c ∈ r.head?, ¬ c.isAlpha) (h : Splits r ps) :
    Splits ('%' :: '(' :: (name ++ ')' :: r)) (.placeholder name none :: ps)
  | letter {c : Char} {r : List Char} {ps : List Piece} (hc : c.isAlpha) (h : Splits r ps) :
    Splits ('%' :: c :: r) (.letter c :: ps)
  | stray {r : List Char} {ps : List Piece}
    (hr : ∀ c ∈ r.head?, c ≠ '%' ∧ c ≠ '(' ∧ ¬ c.isAlpha) (h : Splits r ps) :
    Splits ('%' :: r) (.stray :: ps)

/-- Inside parentheses the scan goes on with the name up to the first that closes. -/
theorem split_some_append {name : List Char} (hname : ')' ∉ name) (before r : List Char) :
    Piece.split (some before) (name ++ r) = Piece.split (some (name.reverse ++ before)) r := by
  induction name generalizing before with
  | nil => rfl
  | cons c cs ih =>
    obtain ⟨hc, hcs⟩ := not_or.1 (mt List.mem_cons.2 hname)
    have hstep : Piece.split (some before) (c :: (cs ++ r)) =
        Piece.split (some (c :: before)) (cs ++ r) := by
      rw [Piece.split]
      · exact fun _ _ h => absurd h.symm hc
      · exact fun h => absurd h.symm hc
    rw [List.cons_append, hstep, ih hcs]
    simp

theorem split_percent_cons {c : Char} {r : List Char} (hpercent : c ≠ '%') (hparen : c ≠ '(') :
    Piece.split none ('%' :: c :: r) = if c.isAlpha then .letter c :: Piece.split none r
      else .stray :: Piece.split none (c :: r) := by
  rw [Piece.split]
  · exact hpercent
  · exact hparen

/-- A text that falls into pieces is scanned for just these. -/
theorem Splits.all_eq {cs : List Char} {ps : List Piece} (h : Splits cs ps) :
    Piece.all cs = ps := by
  unfold Piece.all
  -- by how the text falls apart: each rule is one equation of the scan
  induction h with
  | nil => rfl
  | @char c r ps hc h ih =>
    rw [Piece.split, ih]
    all_goals simp_all
  | percent h ih => rw [Piece.split, ih]
  | @unterminated name hname =>
    have := split_some_append hname [] []
    rw [List.append_nil, List.append_nil] at this
    rw [Piece.split, this, Piece.split, List.reverse_reverse]
  | formatted hname hf h ih =>
    rw [Piece.split, split_some_append hname, Piece.split, if_pos hf, ih]
    simp
  | @bare name r ps hname hr h ih =>
    rw [Piece.split, split_some_append hname]
    -- at the end of the text there is no letter to look at
    cases r with
    | nil =>
      rw [Piece.split] at ih
      rw [Piece.split, ← ih]
      simp
    | cons c r =>
      rw [Piece.split, if_neg (hr c rfl), ih]
      simp
  | @letter c r ps hc h ih =>
    have hpercent : c ≠ '%' := by
      rintro rfl
      exact absurd hc (by decide)
    have hparen : c ≠ '(' := by
      rintro rfl
      exact absurd hc (by decide)
    rw [split_percent_cons hpercent hparen, if_pos hc, ih]
  | @stray r ps hr h ih =>
    cases r with
    | nil =>
      rw [Piece.split] at ih
      rw [Piece.split, ← ih]
    | cons c r =>
      obtain ⟨hpercent, hparen, hletter⟩ := hr c rfl
      rw [split_percent_cons hpercent hparen, if_neg hletter, ih]

/-- The scan of a text, from inside or outside of parentheses, gives pieces that it falls into. The
induction is on the scan: inside, it has left behind an opening parenthesis and a part of a name. -/
theorem splits_split (inside : Option (List Char)) (cs : List Char)
    (hinside : ∀ name ∈ inside, ')' ∉ name) :
    Splits (inside.elim [] (fun name => '%' :: '(' :: name.reverse) ++ cs)
      (Piece.split inside cs) := by
  -- inside a placeholder, its percent sign, bracket and name up to here count as read
  fun_induction Piece.split inside cs with
  | case1 => exact .nil
  | case2 r ih => exact .percent (ih hinside)
  | case3 r ih => exact ih (by simp)
  | case4 c r hpercent hparen hc ih => exact .letter hc (ih hinside)
  | case5 c r hpercent hparen hc ih =>
    refine .stray ?_ (ih hinside)
    rintro _ ⟨⟩
    exact ⟨hpercent, hparen, hc⟩
  | case6 => exact .stray (by simp) .nil
  -- a plain character is no percent sign, with or without a text behind it
  | case7 c r _ _ hcons hnil ih =>
    refine .char ?_ (ih hinside)
    rintro rfl
    cases r with
    | nil => exact hnil rfl rfl
    | cons d r => exact hcons d r rfl rfl
  | case8 name =>
    rw [Option.elim_some, List.append_nil]
    exact .unterminated (by simpa using hinside name rfl)
  | case9 name c r hc ih =>
    have hname : ')' ∉ name.reverse := by simpa using hinside name rfl
    simpa using Splits.formatted hname hc (ih (by simp))
  | case10 name c r hc ih =>
    have hname : ')' ∉ name.reverse := by simpa using hinside name rfl
    simpa using Splits.bare hname (by simpa using hc) (ih (by simp))
  | case11 name =>
    have hname : ')' ∉ name.reverse := by simpa using hinside name rfl
    simpa using Splits.bare hname (by simp) .nil
  -- the name goes on: what is read grows by one character
  | case12 name c r hcons hnil ih =>
    have hc : ')' ≠ c := by
      rintro rfl
      cases r with
      | nil => exact hnil rfl rfl
      | cons d r => exact hcons d r rfl rfl
    have hname : ')' ∉ c :: name := by simpa [hc] using hinside name rfl
    simpa using ih (by simpa using hname)

/-- A text falls into pieces in one way, which is that of the scan. -/
theorem splits_iff {cs : List Char} {ps : List Piece} : Splits cs ps ↔ Piece.all cs = ps := by
  constructor
  · exact Splits.all_eq
  · rintro rfl
    exact splits_split none cs (by simp)

/-! ## Pieces at fault -/

/-- A piece that a text with values may have. -/
inductive Acceptable (params : Params) : Piece → Prop
  | char (c : Char) : Acceptable params (.char c)
  | percent : Acceptable params .percent
  | placeholder {name : List Char} {f : Char} (hname : name ≠ []) (hf : f ∈ Placeholder.formats)
    (hparam : String.ofList name ∈ params.keys) : Acceptable params (.placeholder name (some f))

/-- The message for a piece with so many octets in front of it. -/
inductive Blames (params : Params) (start : Nat) : Piece → String → Prop
  | unterminated (name : List Char) : Blames params start (.unterminated name)
    ("unterminated placeholder '%(" ++ String.ofList name ++ "' at byte " ++ Text.natText start)
  | emptyName (format : Option Char) : Blames params start (.placeholder [] format)
    ("empty placeholder name at byte " ++ Text.natText start)
  | badFormat {name : List Char} {format : Option Char} (hname : name ≠ [])
    (hformat : ∀ f ∈ format, f ∉ Placeholder.formats) :
    Blames params start (.placeholder name format)
      ("placeholder '%(" ++ String.ofList name ++ ")' must be followed by 's', 'b' or 't'")
  | missing {name : List Char} {f : Char} (hname : name ≠ []) (hf : f ∈ Placeholder.formats)
    (hparam : String.ofList name ∉ params.keys) :
    Blames params start (.placeholder name (some f))
      ("placeholder '%(" ++ String.ofList name ++ ")s' has no matching param")
  | positional {c : Char} (hc : c ∈ Placeholder.formats) : Blames params start (.letter c)
    ("positional placeholder '%" ++ c.toString ++ "' cannot be used with named params")
  | unsupported {c : Char} (hc : c ∉ Placeholder.formats) : Blames params start (.letter c)
    ("unsupported placeholder '%" ++ c.toString ++ "'")
  | stray : Blames params start .stray
    ("stray '%' at byte " ++ Text.natText start ++ "; use '%%' for a literal percent sign")

/-- The names of values that no piece refers to: all of them, each once, in the order of octets. -/
structure Unreferenced (params : Params) (ps : List Piece) (names : List String) : Prop where
  mem_iff : ∀ n, n ∈ names ↔ n ∈ params.keys ∧
    ∀ name format, Piece.placeholder name format ∈ ps → String.ofList name ≠ n
  sorted : names.Pairwise fun a b => Bytes.ofText a < Bytes.ofText b

variable {params : Params} {start : Nat} {p : Piece} {ps : List Piece} {message : String}

namespace Placeholder

theorem all_not_formats_iff {format : Option Char} :
    (format.all fun c => !formats.contains c) = true ↔ ∀ f ∈ format, f ∉ formats := by
  cases format <;> simp

/-- A piece is not at fault just if it is acceptable. -/
theorem fault?_eq_none_iff_acceptable : fault? params start p = none ↔ Acceptable params p := by
  constructor
  · intro h
    cases p with
    | char c => exact .char c
    | percent => exact .percent
    | placeholder name format =>
      simp only [fault?] at h
      split_ifs at h with hname hformat hparam
      cases format with
      | none => simp at hformat
      | some f => exact .placeholder hname (by simpa using hformat) (Keyed.contains_iff.1 hparam)
    | unterminated name => cases h
    | letter c => cases h
    | stray => cases h
  · rintro (_ | _ | ⟨hname, hf, hparam⟩)
    · rfl
    · rfl
    · simp [fault?, hname, hf, Keyed.contains_iff.2 hparam]

/-- A piece at fault is blamed for the first thing that is wrong with it. -/
theorem exists_fault?_iff_blames :
    (∃ f, fault? params start p = some f ∧ f.message = message) ↔
      Blames params start p message := by
  constructor
  · rintro ⟨f, hf, rfl⟩
    cases p with
    | char c => cases hf
    | percent => cases hf
    | placeholder name format =>
      simp only [fault?] at hf
      -- a placeholder is checked for its name, then its letter, then its parameter
      split_ifs at hf with hname hformat hparam
      · cases hf
        subst hname
        exact .emptyName format
      · cases hf
        exact .badFormat hname (all_not_formats_iff.1 hformat)
      · cases hf
        cases format with
        | none => simp at hformat
        | some f =>
          exact .missing hname (by simpa using hformat) (mt Keyed.contains_iff.2 hparam)
    | unterminated name =>
      cases hf
      exact .unterminated name
    | letter c =>
      cases hf
      split_ifs with hc
      · exact .positional (by simpa using hc)
      · exact .unsupported (by simpa using hc)
    | stray =>
      cases hf
      exact .stray
  · intro h
    cases h with
    | unterminated name => exact ⟨_, rfl, rfl⟩
    | emptyName format => exact ⟨.emptyName start, by simp [fault?], rfl⟩
    | @badFormat name format hname hformat =>
      refine ⟨.badFormat (String.ofList name), ?_, rfl⟩
      rw [fault?, if_neg hname, if_pos (all_not_formats_iff.2 hformat)]
    | @missing name f hname hf hparam =>
      refine ⟨.missing (String.ofList name), ?_, rfl⟩
      simp [fault?, hname, hf, mt Keyed.contains_iff.1 hparam]
    | @positional c hc => exact ⟨.positional c, by simp [fault?, hc], rfl⟩
    | @unsupported c hc => exact ⟨.unsupported c, by simp [fault?, hc], rfl⟩
    | stray => exact ⟨_, rfl, rfl⟩

/-- The first piece is at fault, or it is acceptable and one behind it is. -/
theorem findSome?_located_cons_iff : (∃ f, ((Piece.located start (p :: ps)).findSome?
      fun (start, p) => fault? params start p) = some f ∧ f.message = message) ↔
    Blames params start p message ∨ Acceptable params p ∧
      ∃ f, ((Piece.located (start + p.size) ps).findSome? fun (start, p) =>
        fault? params start p) = some f ∧ f.message = message := by
  rw [← exists_fault?_iff_blames, ← @fault?_eq_none_iff_acceptable params start p]
  simp only [Piece.located, List.findSome?_cons]
  cases fault? params start p <;> simp

/-- The pieces in front of the first at fault are acceptable, and its offset is their octets. -/
theorem findSome?_located_iff : (∃ f, ((Piece.located start ps).findSome? fun (start, p) =>
      fault? params start p) = some f ∧ f.message = message) ↔
    ∃ before p after, ps = before ++ p :: after ∧ (∀ q ∈ before, Acceptable params q) ∧
      Blames params (start + (String.ofList (before.flatMap Piece.text)).utf8ByteSize) p message := by
  induction ps generalizing start with
  | nil => simp [Piece.located]
  | cons p ps ih =>
    have hsize (before : List Piece) :
        start + (String.ofList ((p :: before).flatMap Piece.text)).utf8ByteSize =
          start + p.size + (String.ofList (before.flatMap Piece.text)).utf8ByteSize := by
      rw [List.flatMap_cons, String.ofList_append, String.utf8ByteSize_append, Piece.size,
        Nat.add_assoc]
    rw [findSome?_located_cons_iff, ih]
    constructor
    · rintro (h | ⟨hp, before, p', after, rfl, hbefore, h⟩)
      · exact ⟨[], p, ps, rfl, by simp, h⟩
      · exact ⟨p :: before, p', after, rfl, List.forall_mem_cons.2 ⟨hp, hbefore⟩, by rwa [hsize]⟩
    · rintro ⟨_ | ⟨q, before⟩, p', after, hsplit, hbefore, h⟩
      · cases hsplit
        exact .inl h
      · cases hsplit
        obtain ⟨hp, hbefore⟩ := List.forall_mem_cons.1 hbefore
        exact .inr ⟨hp, before, p', after, rfl, hbefore, hsize before ▸ h⟩

theorem findSome?_located_eq_none_iff : ((Piece.located start ps).findSome? fun (start, p) =>
    fault? params start p) = none ↔ ∀ p ∈ ps, Acceptable params p := by
  rw [List.findSome?_eq_none_iff, ← @Piece.forall_located _ start]
  exact forall₂_congr fun _ _ => fault?_eq_none_iff_acceptable

end Placeholder

/-! ## Values that no name refers to -/

/-- The names of a text are those of its placeholders. -/
theorem mem_names_iff {n : String} : n ∈ Placeholder.names ps ↔
    ∃ name format, Piece.placeholder name format ∈ ps ∧ String.ofList name = n := by
  rw [Placeholder.names, List.mem_eraseDups, List.mem_filterMap]
  constructor
  · rintro ⟨p, hp, hn⟩
    cases p <;> cases hn
    exact ⟨_, _, hp, rfl⟩
  · rintro ⟨name, format, hp, rfl⟩
    exact ⟨_, hp, rfl⟩

/-- The names that nothing refers to are the keys but for those of the pieces. -/
theorem unreferenced_iff {names : List String} : Unreferenced params ps names ↔
    names = params.keys.filter fun k => !(Placeholder.names ps).contains k := by
  have hfilter : Unreferenced params ps
      (params.keys.filter fun k => !(Placeholder.names ps).contains k) := by
    refine ⟨fun n => ?_, params.keys_increase.filter _⟩
    rw [List.mem_filter]
    refine and_congr_right fun _ => ?_
    rw [Bool.not_eq_true', ← Bool.not_eq_true, List.contains_iff_mem, mem_names_iff]
    simp only [not_exists, not_and]
  constructor
  · intro h
    have : Std.Antisymm fun a b : String => Bytes.ofText a < Bytes.ofText b :=
      ⟨fun a _ hab hba => absurd hab (List.lt_asymm hba)⟩
    have : Std.Irrefl fun a b : String => Bytes.ofText a < Bytes.ofText b :=
      ⟨fun a => List.lt_irrefl _⟩
    refine List.Pairwise.eq_of_mem_iff h.sorted hfilter.sorted fun n => ?_
    rw [h.mem_iff, hfilter.mem_iff]
  · rintro rfl
    exact hfilter

/-! ## Texts -/

/-- The message of a text that does not compile with values, as that of its pieces. -/
theorem compileNamed_message_iff {sql : String} :
    (∃ f, Placeholder.compileNamed sql params = .error f ∧ f.message = message) ↔
      (∃ before p after, Piece.all sql.toList = before ++ p :: after ∧
        (∀ q ∈ before, Acceptable params q) ∧
        Blames params (String.ofList (before.flatMap Piece.text)).utf8ByteSize p message) ∨
      (∀ p ∈ Piece.all sql.toList, Acceptable params p) ∧
        ∃ names, Unreferenced params (Piece.all sql.toList) names ∧ names ≠ [] ∧
          message = "params not referenced by any placeholder: " ++ ", ".intercalate names := by
  have hfirst := @Placeholder.findSome?_located_iff params 0 (Piece.all sql.toList) message
  simp only [Nat.zero_add] at hfirst
  rw [← hfirst, ← @Placeholder.findSome?_located_eq_none_iff params 0, Placeholder.compileNamed]
  split
  · rename_i f hf
    simp [hf]
  · rename_i hnone
    simp only [hnone, unreferenced_iff, exists_eq_left, reduceCtorEq, false_and, exists_false,
      false_or, true_and]
    split_ifs with hempty
    · constructor
      · rintro ⟨f, hf, -⟩
        cases hf
      · rintro ⟨hne, -⟩
        exact absurd (List.isEmpty_iff.1 hempty) hne
    · constructor
      · rintro ⟨f, hf, rfl⟩
        cases hf
        exact ⟨mt List.isEmpty_iff.2 hempty, rfl⟩
      · rintro ⟨-, rfl⟩
        exact ⟨_, rfl, rfl⟩

/-- A text with values for its names falls into pieces in one way. If it does not compile, its
message is that of the first piece which is not acceptable: for a parenthesis that is never closed,
an empty name, a letter that is no format or none, or a name without a value, whichever comes first
in this order, or for a letter or a percent sign without a name; an offset in it is the number of
octets in front of the piece. Only if all pieces are acceptable is it about values: it lists just
those that no name refers to, each once and in the order of octets. The order in which the values
were given makes no difference. -/
theorem compile_reports_first (sql : String) (params : Params) (hp : params.isEmpty = false) :
    ∃ ps, (∀ ps', Splits sql.toList ps' ↔ ps' = ps) ∧ ps.flatMap Piece.text = sql.toList ∧
      (∀ e, (compile sql (some params)).mapError Placeholder.Fault.error = .error e ↔
        ∃ message, e = .invalidArgument message ∧
          ((∃ before p after, ps = before ++ p :: after ∧ (∀ q ∈ before, Acceptable params q) ∧
              Blames params (String.ofList (before.flatMap Piece.text)).utf8ByteSize p message) ∨
            (∀ p ∈ ps, Acceptable params p) ∧
              ∃ names, Unreferenced params ps names ∧ names ≠ [] ∧
                message = "params not referenced by any placeholder: " ++
                  ", ".intercalate names)) ∧
      ∀ es es' : List (String × Json), es.Perm es' → (es.map (·.1)).Nodup →
        compile sql (some (Keyed.ofList es)) = compile sql (some (Keyed.ofList es')) := by
  refine ⟨Piece.all sql.toList, fun ps' => splits_iff.trans eq_comm, Piece.flatMap_text_all _,
    fun e => ?_, fun es es' hperm hnodup => by rw [Keyed.ofList_eq_of_perm hperm hnodup]⟩
  rw [compile_eq_compileNamed sql hp, mapError_eq_error_iff]
  simp only [← compileNamed_message_iff]
  constructor
  · rintro ⟨f, hf, rfl⟩
    exact ⟨f.message, rfl, f, hf, rfl⟩
  · rintro ⟨_, rfl, f, hf, rfl⟩
    exact ⟨f, hf, rfl⟩

/-- An offset behind a character of two octets, a doubled percent sign and a slot, although a value
is not referred to; and values that are not referred to, given out of order. -/
theorem compile_reports_first_offset :
    (Keyed.ofList [("a", Json.null), ("u", .null)]).isEmpty = false ∧
    (compile "é%%%(a)s%(b" (some (Keyed.ofList [("a", .null), ("u", .null)]))).mapError
      Placeholder.Fault.error =
        .error (.invalidArgument "unterminated placeholder '%(b' at byte 9") ∧
    (compile "%(a)s" (some (Keyed.ofList [("v", .null), ("a", .null), ("u", .null)]))).mapError
      Placeholder.Fault.error =
        .error (.invalidArgument "params not referenced by any placeholder: u, v") := by
  have htwo : (Keyed.ofList [("a", Json.null), ("u", .null)]).isEmpty = false := by decide +kernel
  have hthree : (Keyed.ofList [("v", Json.null), ("a", .null), ("u", .null)]).isEmpty = false := by
    decide +kernel
  refine ⟨htwo, ?_, ?_⟩
  · obtain ⟨ps, hsplits, -, herror, -⟩ := compile_reports_first "é%%%(a)s%(b" _ htwo
    have hps : Splits "é%%%(a)s%(b".toList
        [.char 'é', .percent, .placeholder ['a'] (some 's'), .unterminated ['b']] :=
      .char (by decide) (.percent (@Splits.formatted ['a'] _ _ _ (by decide) (by decide)
        (.unterminated (by decide))))
    refine (herror _).2 ⟨_, rfl, .inl ⟨[.char 'é', .percent, .placeholder ['a'] (some 's')], _, [],
      ((hsplits _).1 hps).symm, ?_, ?_⟩⟩
    · refine List.forall_mem_cons.2 ⟨.char _, List.forall_mem_cons.2 ⟨.percent, ?_⟩⟩
      exact List.forall_mem_singleton.2
        (.placeholder (by decide) (by decide) (by decide +kernel))
    · have hsize : (String.ofList ([.char 'é', .percent, .placeholder ['a'] (some 's')].flatMap
          Piece.text)).utf8ByteSize = 9 := by decide +kernel
      have hmessage : "unterminated placeholder '%(b' at byte 9" =
          "unterminated placeholder '%(" ++ String.ofList ['b'] ++ "' at byte " ++
            Text.natText 9 := by decide +kernel
      rw [hsize, hmessage]
      exact .unterminated ['b']
  · obtain ⟨ps, hsplits, -, herror, -⟩ := compile_reports_first "%(a)s" _ hthree
    have hps : Splits "%(a)s".toList [.placeholder ['a'] (some 's')] :=
      @Splits.formatted ['a'] _ _ _ (by decide) (by decide) .nil
    rw [← (hsplits _).1 hps] at herror
    refine (herror _).2 ⟨_, rfl, .inr ⟨?_, ["u", "v"], ?_, by decide, ?_⟩⟩
    · exact List.forall_mem_singleton.2
        (.placeholder (by decide) (by decide) (by decide +kernel))
    · exact unreferenced_iff.2 (by decide +kernel)
    · decide +kernel

end PgRole.Sql
