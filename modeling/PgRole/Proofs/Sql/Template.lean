import Mathlib.Data.Finset.Card
import Mathlib.Data.List.Nodup
import Mathlib.Data.List.Basic
import PgRole.Sql.Placeholder

/-!
# Templates

The grammar of texts with named placeholders, apart from the scan that `compile` does: a `Template`
is a list of units, each a character other than a percent sign, a doubled percent sign, or a slot
`%(name)f`. A text is one of them in at most one way (`Template.ext_text`), and `compile` accepts
exactly the texts of templates whose names are the keys of the values.

* `Template.all_text`: the pieces of the text of a template are its units.
* `Template.exists_iff`: a text is the text of a template iff none of its pieces is at fault.
* `Template.compileNamed_iff`: when a text is compiled with values, and to which text and arguments.
* `compile_eq_ok_iff_template`: the same of `compile`, which passes a text without values as it is.
-/

namespace PgRole.Sql

/-- What a template is made of: a character as it stands, a percent sign, or a slot for the value
of a name. -/
inductive Template.Unit where
  | plain (c : Char) (h : c ≠ '%')
  | percent
  | slot (name : List Char) (format : Char) (nonempty : name ≠ []) (closed : ')' ∉ name)
      (known : format ∈ Placeholder.formats)

/-- A text with named placeholders. -/
abbrev Template := List Template.Unit

namespace Template

/-- The characters of a unit as they are written. -/
def Unit.text : Unit → List Char
  | plain c _ => [c]
  | percent => ['%', '%']
  | slot name format _ _ _ => '%' :: '(' :: name ++ [')', format]

/-- The name of a slot. -/
def Unit.name? : Unit → Option String
  | slot name _ _ _ _ => some (String.ofList name)
  | _ => none

/-- A template as it is written. -/
def text (t : Template) : List Char := t.flatMap Unit.text

/-- The names of the slots from left to right. -/
def names (t : Template) : List String := t.filterMap Unit.name?

/-- The rank of a name among names by first appearance: one more than the number of different
names before it. -/
def rank (ns : List String) (n : String) : Nat := (ns.takeWhile (· ≠ n)).toFinset.card + 1

/-- What stands for a unit once the names have their ranks. -/
def Unit.positional (ns : List String) : Unit → List Char
  | plain c _ => [c]
  | percent => ['%']
  | slot name _ _ _ _ => paramText (rank ns (String.ofList name))

/-- The text with doubled percent signs single and a numbered parameter for each slot. -/
def positional (t : Template) : List Char := t.flatMap (Unit.positional t.names)

/-! ## First appearances -/

theorem nodup_eraseDups (l : List String) : l.eraseDups.Nodup := by
  induction l using List.reverseRecOn with
  | nil => simp
  | append_singleton l a ih =>
    rw [List.eraseDups_append, List.nodup_append]
    refine ⟨ih, ?_, ?_⟩
    · by_cases h : a ∈ l <;> simp [List.removeAll, List.eraseDups_cons, h]
    · intro x hx y hy
      have hy : y ∈ [a].removeAll l := List.mem_eraseDups.1 hy
      simp only [List.removeAll, List.mem_filter, Bool.not_eq_true', List.elem_eq_contains] at hy
      rintro rfl
      exact absurd (List.mem_eraseDups.1 hx) (by simpa using hy.2)

theorem length_eraseDups (l : List String) : l.eraseDups.length = l.toFinset.card := by
  rw [← List.toFinset_card_of_nodup (nodup_eraseDups l)]
  congr 1
  ext x
  simp [List.mem_eraseDups]

/-- A name stands at its rank among the names without repetition. -/
theorem idxOf_eraseDups {l : List String} {n : String} (h : n ∈ l) :
    l.eraseDups.idxOf n + 1 = rank l n := by
  obtain ⟨before, after, rfl, hn⟩ := List.eq_append_cons_of_mem h
  have ht : (before ++ n :: after).takeWhile (· ≠ n) = before := by
    rw [List.takeWhile_append_of_pos fun m hm => by simpa using ne_of_mem_of_not_mem hm hn]
    simp
  have hx : (n :: after).removeAll before = n :: after.removeAll before := by
    simp [List.removeAll, hn]
  rw [rank, ht, ← length_eraseDups, List.eraseDups_append, hx, List.eraseDups_cons,
    List.idxOf_append_of_notMem (by simpa [List.mem_eraseDups] using hn), List.idxOf_cons_self,
    Nat.add_zero]

/-! ## Pieces and units -/

/-- The piece that a unit is for the scan. -/
def Unit.piece : Unit → Piece
  | plain c _ => .char c
  | percent => .percent
  | slot name format _ _ _ => .placeholder name (some format)

theorem Unit.text_piece (u : Unit) : u.piece.text = u.text := by
  cases u <;> simp [piece, Piece.text, text]

theorem Unit.name?_piece (u : Unit) : u.piece.name? = u.name? := by
  cases u <;> rfl

theorem isAlpha_of_mem_formats {c : Char} (h : c ∈ Placeholder.formats) : c.isAlpha := by
  simp only [Placeholder.formats, List.mem_cons, List.not_mem_nil, or_false] at h
  rcases h with rfl | rfl | rfl <;> decide

/-- Inside parentheses the scan takes the name up to the first that closes. -/
theorem split_name {name : List Char} (hc : ')' ∉ name) {f : Char} (hf : f.isAlpha)
    (before r : List Char) :
    Piece.split (some before) (name ++ ')' :: f :: r) =
      .placeholder (before.reverse ++ name) (some f) :: Piece.split none r := by
  induction name generalizing before with
  | nil => simp [Piece.split, hf]
  | cons c cs ih =>
    obtain ⟨hc', hcs⟩ := not_or.1 (mt List.mem_cons.2 hc)
    have hstep : Piece.split (some before) (c :: (cs ++ ')' :: f :: r)) =
        Piece.split (some (c :: before)) (cs ++ ')' :: f :: r) := by
      rw [Piece.split]
      · exact fun _ _ h => absurd h.symm hc'
      · exact fun h => absurd h.symm hc'
    rw [List.cons_append, hstep, ih hcs]
    simp

/-- The scan takes a unit off the front of a text. -/
theorem split_text (u : Unit) (r : List Char) :
    Piece.split none (u.text ++ r) = u.piece :: Piece.split none r := by
  cases u with
  | plain c h =>
    simp only [Unit.text, Unit.piece, List.singleton_append]
    rw [Piece.split]
    all_goals simp_all
  | percent => simp [Unit.text, Unit.piece, Piece.split]
  | slot name f nonempty closed known =>
    have := split_name closed (isAlpha_of_mem_formats known) [] r
    simpa [Unit.text, Unit.piece, Piece.split] using this

/-- The pieces of the text of a template are its units. -/
theorem all_text (t : Template) : Piece.all t.text = t.map Unit.piece := by
  induction t with
  | nil => rfl
  | cons u t ih =>
    rw [text, List.flatMap_cons, Piece.all, split_text]
    exact congrArg _ ih

theorem Unit.piece_injective : Function.Injective Unit.piece := by
  intro u v h
  cases u <;> cases v <;> simp_all [piece]

/-- A text is that of at most one template. -/
theorem ext_text {t t' : Template} (h : t.text = t'.text) : t = t' := by
  have := congrArg Piece.all h
  rw [all_text, all_text] at this
  exact List.map_injective_iff.2 Unit.piece_injective this

end Template

/-- What the scan never gives: a percent sign as a plain character, and a name that goes on behind
a parenthesis that closes it. -/
def Piece.Proper : Piece → Prop
  | .char c => c ≠ '%'
  | .placeholder name _ => ')' ∉ name
  | _ => True

/-- The scan makes proper pieces only: no character among them is a percent sign, and no name has a
closing parenthesis. -/
theorem Piece.proper_split (inside : Option (List Char)) (cs : List Char)
    (hi : ∀ name ∈ inside, ')' ∉ name) : ∀ p ∈ split inside cs, p.Proper := by
  fun_induction split inside cs with
  | case7 c r _ _ hcons hnil ih =>
    have hc : c ≠ '%' := by
      rintro rfl
      cases r with
      | nil => exact hnil rfl rfl
      | cons d r => exact hcons d r rfl rfl
    exact List.forall_mem_cons.2 ⟨hc, ih hi⟩
  | case12 name c r hcons hnil ih =>
    have hc : ')' ≠ c := by
      rintro rfl
      cases r with
      | nil => exact hnil rfl rfl
      | cons d r => exact hcons d r rfl rfl
    exact ih (by simpa [hc] using hi)
  | _ => simp_all [Proper]

theorem Piece.forall_located {P : Piece → Prop} {start : Nat} {ps : List Piece} :
    (∀ x ∈ located start ps, P x.2) ↔ ∀ p ∈ ps, P p := by
  induction ps generalizing start with
  | nil => simp [located]
  | cons p ps ih => simp only [located, List.forall_mem_cons, ih]

/-- The pieces without a fault are the units of templates whose names have values. -/
theorem Placeholder.fault?_eq_none_iff {params : Params} {start : Nat} {p : Piece}
    (hp : p.Proper) : fault? params start p = none ↔
      ∃ u : Template.Unit, u.piece = p ∧ ∀ n ∈ u.name?, params.contains n := by
  constructor
  · intro h
    -- what is without fault is a unit of a template; the other pieces always have one
    cases p with
    | char c => exact ⟨.plain c hp, rfl, by simp [Template.Unit.name?]⟩
    | percent => exact ⟨.percent, rfl, by simp [Template.Unit.name?]⟩
    | placeholder name format =>
      rw [fault?] at h
      split at h
      · cases h
      rename_i hname
      split at h
      · cases h
      rename_i hformat
      split at h
      · rename_i hcontains
        obtain _ | f := format
        · simp at hformat
        · exact ⟨.slot name f hname hp (by simpa using hformat), rfl,
            by simpa [Template.Unit.name?] using hcontains⟩
      · cases h
    | unterminated name => cases h
    | letter c => cases h
    | stray => cases h
  · rintro ⟨u, rfl, hn⟩
    cases u with
    | plain c h => rfl
    | percent => rfl
    | slot name f nonempty closed known =>
      have hc : params.contains (String.ofList name) := hn _ rfl
      simp [Template.Unit.piece, fault?, nonempty, known, hc]

namespace Template

/-- Pieces that each come from a unit come from a template. -/
theorem exists_map_piece {Q : Unit → Prop} {ps : List Piece} :
    (∀ p ∈ ps, ∃ u : Unit, u.piece = p ∧ Q u) ↔
      ∃ t : Template, t.map Unit.piece = ps ∧ ∀ u ∈ t, Q u := by
  constructor
  · intro h
    induction ps with
    | nil => exact ⟨[], rfl, by simp⟩
    | cons p ps ih =>
      obtain ⟨⟨u, hu, hq⟩, h⟩ := List.forall_mem_cons.1 h
      obtain ⟨t, ht, hqs⟩ := ih h
      exact ⟨u :: t, by simp [hu, ht], List.forall_mem_cons.2 ⟨hq, hqs⟩⟩
  · rintro ⟨t, rfl, hq⟩ p hp
    obtain ⟨u, hu, rfl⟩ := List.mem_map.1 hp
    exact ⟨u, rfl, hq u hu⟩

/-- A text has no piece at fault iff it is that of a template whose names have values. -/
theorem exists_iff {params : Params} {cs : List Char} :
    ((Piece.located 0 (Piece.all cs)).findSome?
        fun (start, p) => Placeholder.fault? params start p) = none ↔
      ∃ t : Template, t.text = cs ∧ ∀ n ∈ t.names, params.contains n := by
  have hproper : ∀ p ∈ Piece.all cs, p.Proper := Piece.proper_split none cs (by simp)
  have hfault : ∀ x ∈ Piece.located 0 (Piece.all cs),
      (Placeholder.fault? params x.1 x.2 = none ↔
        ∃ u : Unit, u.piece = x.2 ∧ ∀ n ∈ u.name?, params.contains n) := fun x hx =>
    Placeholder.fault?_eq_none_iff (Piece.forall_located.2 hproper x hx)
  rw [List.findSome?_eq_none_iff, forall₂_congr hfault, Piece.forall_located (P := fun p =>
    ∃ u : Unit, u.piece = p ∧ ∀ n ∈ u.name?, params.contains n), exists_map_piece]
  constructor
  · rintro ⟨t, ht, hn⟩
    refine ⟨t, ?_, ?_⟩
    · have := congrArg (List.flatMap Piece.text) ht
      rw [Piece.flatMap_text_all, List.flatMap_map] at this
      simpa [text, Unit.text_piece] using this
    · intro n hn'
      obtain ⟨u, hu, hname⟩ := List.mem_filterMap.1 hn'
      exact hn u hu n hname
  · rintro ⟨t, rfl, hn⟩
    exact ⟨t, (all_text t).symm, fun u hu n hname => hn n (List.mem_filterMap.2 ⟨u, hu, hname⟩)⟩

theorem names_all (t : Template) : Placeholder.names (Piece.all t.text) = t.names.eraseDups := by
  rw [Placeholder.names, all_text, List.filterMap_map, names]
  congr 2
  exact funext Unit.name?_piece

/-- The compiled pieces of the text of a template are its positional text. -/
theorem compiled_all (t : Template) :
    (Piece.all t.text).flatMap (Placeholder.compiled t.names.eraseDups) = t.positional := by
  rw [all_text, List.flatMap_map, positional]
  refine List.flatMap_congr fun u hu => ?_
  cases u with
  | plain c h => rfl
  | percent => rfl
  | slot name f nonempty closed known =>
    have hn : String.ofList name ∈ t.names := List.mem_filterMap.2 ⟨_, hu, rfl⟩
    rw [Unit.piece, Placeholder.compiled, idxOf_eraseDups hn, Unit.positional]

/-- Compilation with values, through templates. -/
theorem compileNamed_iff {sql : String} {params : Params} {b : Bound} :
    Placeholder.compileNamed sql params = .ok b ↔
      ∃ t : Template, t.text = sql.toList ∧ (∀ n, n ∈ t.names ↔ n ∈ params.keys) ∧
        b = ⟨String.ofList t.positional, t.names.eraseDups.filterMap params.get?⟩ := by
  -- no parameter is left over
  have hunused (t : Template) :
      ((params.keys.filter fun k => !t.names.eraseDups.contains k).isEmpty = true) ↔
        ∀ k ∈ params.keys, k ∈ t.names := by
    simp [List.mem_eraseDups]
  constructor
  · intro h
    rw [Placeholder.compileNamed] at h
    split at h
    · cases h
    · rename_i hnone
      obtain ⟨t, ht, hn⟩ := exists_iff.1 hnone
      rw [← ht] at h
      simp only [names_all, compiled_all] at h
      split at h
      · rename_i hu
        cases h
        exact ⟨t, ht, fun n => ⟨fun hm => Keyed.contains_iff.1 (hn n hm), (hunused t).1 hu n⟩, rfl⟩
      · cases h
  · rintro ⟨t, ht, hn, rfl⟩
    have hnone := exists_iff.2 ⟨t, ht, fun n hm => Keyed.contains_iff.2 ((hn n).1 hm)⟩
    rw [Placeholder.compileNamed]
    split
    · rename_i f hf
      cases hf.symm.trans hnone
    · rw [← ht]
      simp only [names_all, compiled_all]
      rw [if_pos ((hunused t).2 fun k hk => (hn k).2 hk)]

theorem getElem?_filterMap_of_isSome {α β : Type} {f : α → Option β} {l : List α}
    (h : ∀ x ∈ l, (f x).isSome) (i : Nat) : (l.filterMap f)[i]? = l[i]?.bind f := by
  induction l generalizing i with
  | nil => rfl
  | cons a l ih =>
    obtain ⟨ha, hl⟩ := List.forall_mem_cons.1 h
    obtain ⟨b, hb⟩ := Option.isSome_iff_exists.1 ha
    rw [List.filterMap_cons_some hb]
    cases i with
    | zero => simp [hb]
    | succ i => simpa using ih hl i

/-- The arguments of a template: one for each key, each at the rank of its name. -/
theorem args_of_names {t : Template} {params : Params} (hn : ∀ n, n ∈ t.names ↔ n ∈ params.keys) :
    (t.names.eraseDups.filterMap params.get?).length = params.size ∧
      ∀ n ∈ t.names, (t.names.eraseDups.filterMap params.get?)[rank t.names n - 1]? =
        params.get? n := by
  have hsome : ∀ n ∈ t.names.eraseDups, (params.get? n).isSome := fun n hm =>
    Keyed.contains_iff.2 ((hn n).1 (List.mem_eraseDups.1 hm))
  have hperm : t.names.eraseDups.Perm params.keys :=
    (List.perm_ext_iff_of_nodup (nodup_eraseDups _) params.nodup_keys).2 fun n => by
      rw [List.mem_eraseDups, hn]
  constructor
  · rw [← params.length_keys, ← hperm.length_eq, List.length_filterMap_eq_countP]
    exact List.countP_eq_length.2 hsome
  · intro n hm
    rw [← idxOf_eraseDups hm, Nat.add_sub_cancel, getElem?_filterMap_of_isSome hsome,
      List.getElem?_idxOf (List.mem_eraseDups.2 hm), Option.bind_some]

end Template

/-- Compilation with values succeeds exactly on the texts of templates whose names are the keys. The
compiled text has a parameter for each slot, numbered by the rank of its name, and there is one
argument for each key, at the rank of the name; every failure is one of the arguments. -/
theorem compile_eq_ok_iff_template (sql : String) (params : Params)
    (hp : params.isEmpty = false) :
    ((∃ b, compile sql (some params) = .ok b) ↔
      ∃ t : Template, t.text = sql.toList ∧ ∀ n, n ∈ t.names ↔ n ∈ params.keys) ∧
    (∀ (b : Bound) (t : Template), compile sql (some params) = .ok b → t.text = sql.toList →
      b.sql.toList = t.positional ∧ b.args.length = params.size ∧
        ∀ n ∈ t.names, b.args[Template.rank t.names n - 1]? = params.get? n) ∧
    ∀ e, (compile sql (some params)).mapError Placeholder.Fault.error = .error e →
      e.kind = .invalidArgument := by
  have hc : compile sql (some params) = Placeholder.compileNamed sql params := by
    simp [compile, hp]
  rw [hc]
  refine ⟨?_, ?_, ?_⟩
  · constructor
    · rintro ⟨b, hb⟩
      obtain ⟨t, ht, hn, -⟩ := Template.compileNamed_iff.1 hb
      exact ⟨t, ht, hn⟩
    · rintro ⟨t, ht, hn⟩
      exact ⟨_, Template.compileNamed_iff.2 ⟨t, ht, hn, rfl⟩⟩
  · intro b t hb ht
    obtain ⟨t', ht', hn, rfl⟩ := Template.compileNamed_iff.1 hb
    obtain rfl := Template.ext_text (ht.trans ht'.symm)
    obtain ⟨hlength, hargs⟩ := Template.args_of_names hn
    exact ⟨String.toList_ofList, hlength, hargs⟩
  · intro e he
    cases hr : Placeholder.compileNamed sql params with
    | ok b => rw [hr] at he; cases he
    | error f => rw [hr] at he; cases he; rfl

/-- The template `%%%(a%()s, %(b)t, %(a%()b`. -/
def Template.sample : Template :=
  [.percent, .slot ['a', '%', '('] 's' (by decide) (by decide) (by decide), .plain ',' (by decide),
    .plain ' ' (by decide), .slot ['b'] 't' (by decide) (by decide) (by decide),
    .plain ',' (by decide), .plain ' ' (by decide),
    .slot ['a', '%', '('] 'b' (by decide) (by decide) (by decide)]

/-- A doubled percent sign before a slot whose name has a percent sign and a parenthesis and is
used twice. -/
theorem compile_slot_after_percent :
    (Keyed.ofList [("a%(", Json.null), ("b", .bool true)]).isEmpty = false ∧
      ∃ b, compile "%%%(a%()s, %(b)t, %(a%()b"
          (some (Keyed.ofList [("a%(", Json.null), ("b", .bool true)])) = .ok b ∧
        b.sql = "%$1, $2, $1" ∧ b.args.length = 2 := by
  have hp : (Keyed.ofList [("a%(", Json.null), ("b", .bool true)]).isEmpty = false := by
    decide +kernel
  obtain ⟨hiff, hok, -⟩ := compile_eq_ok_iff_template "%%%(a%()s, %(b)t, %(a%()b" _ hp
  have ht : Template.sample.text = "%%%(a%()s, %(b)t, %(a%()b".toList := by decide
  have hk : (Keyed.ofList [("a%(", Json.null), ("b", .bool true)]).keys = ["a%(", "b"] := by
    decide +kernel
  have hn : Template.sample.names = ["a%(", "b", "a%("] := by decide
  obtain ⟨b, hb⟩ := hiff.2 ⟨_, ht, fun n => by rw [hk, hn]; grind⟩
  obtain ⟨hsql, hlength, -⟩ := hok b _ hb ht
  refine ⟨hp, b, hb, ?_, ?_⟩
  · rw [← String.toList_inj, hsql]
    decide +kernel
  · rw [hlength]
    decide +kernel

end PgRole.Sql
