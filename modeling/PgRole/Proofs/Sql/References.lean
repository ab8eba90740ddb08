import Mathlib.Data.List.Chain
import PgRole.Proofs.Sql.Template
import PgRole.Proofs.Text.Digits
import PgRole.Proofs.Text.Span

/-!
# References to parameters

The server takes a dollar sign and all digits behind it for the number of a parameter. A slot of a
template becomes a dollar sign and the rank of its name, and whatever stood behind the slot stands
behind these. So the digits of the text behind a slot count with the rank: `%(a)s0` becomes `$10`.

* `parameterRuns_positional`: what the server takes for numbers, for any text without dollar signs.
* `references_compile`: they are the ranks exactly when no slot has a digit behind it, and the ranks
  are the numbers from one to that of the arguments.
-/

namespace PgRole.Sql

/-- The digits behind the dollar signs of a text, from left to right and as many as there are. -/
def parameterRuns : List Char → List (List Char)
  | [] => []
  | c :: r => if c = '$' then r.takeWhile Text.isDigit :: parameterRuns r else parameterRuns r

/-- The numbers behind the dollar signs of a text; none for a dollar sign without digits. -/
def references (cs : List Char) : List (Option Nat) := (parameterRuns cs).map Text.readNat?

theorem parameterRuns_append {cs : List Char} (h : '$' ∉ cs) (r : List Char) :
    parameterRuns (cs ++ r) = parameterRuns r := by
  induction cs with
  | nil => rfl
  | cons c cs ih =>
    obtain ⟨hc, hcs⟩ := not_or.1 (mt List.mem_cons.2 h)
    rw [List.cons_append, parameterRuns, if_neg (Ne.symm hc), ih hcs]

/-- The number of a parameter goes on with the digits behind it. -/
theorem parameterRuns_paramText (k : Nat) (r : List Char) :
    parameterRuns (paramText k ++ r) =
      (Text.decimal k ++ r.takeWhile Text.isDigit) :: parameterRuns r := by
  have hdollar : '$' ∉ Text.decimal k := fun h =>
    absurd (Text.isDigit_of_mem_decimal h) (by decide)
  rw [paramText, List.cons_append, parameterRuns, if_pos rfl, parameterRuns_append hdollar,
    List.takeWhile_append_of_pos fun c hc => Text.isDigit_of_mem_decimal hc]

namespace Template

/-- The ranks of the names of the slots from left to right. -/
def ranks (t : Template) : List Nat := t.names.map (rank t.names)

/-- Behind each slot, the rank of its name and the digits that the text has there. -/
def runs (ns : List String) : Template → List (List Char)
  | [] => []
  | .slot name _ _ _ _ :: t =>
    (Text.decimal (rank ns (String.ofList name)) ++ (text t).takeWhile Text.isDigit) :: runs ns t
  | _ :: t => runs ns t

/-- Two units of which the first is no slot or the second no digit. -/
def Unit.Apart : Unit → Unit → Prop
  | slot _ _ _ _ _, plain c _ => Text.isDigit c = false
  | _, _ => True

/-- A text begins with the same digits before and after its names have their ranks. -/
theorem takeWhile_positional (ns : List String) (t : Template) :
    (t.flatMap (Unit.positional ns)).takeWhile Text.isDigit = t.text.takeWhile Text.isDigit := by
  induction t with
  | nil => rfl
  | cons u t ih =>
    rw [text, List.flatMap_cons, List.flatMap_cons]
    cases u with
    | plain c h =>
      simp only [Unit.positional, Unit.text, List.singleton_append, List.takeWhile_cons]
      rw [ih]
      rfl
    | percent => rfl
    | slot name f nonempty closed known => rfl

/-- What the server takes for the numbers of parameters. -/
theorem parameterRuns_positional (ns : List String) {t : Template} (h : '$' ∉ t.text) :
    parameterRuns (t.flatMap (Unit.positional ns)) = t.runs ns := by
  induction t with
  | nil => rfl
  | cons u t ih =>
    rw [text, List.flatMap_cons, List.mem_append, not_or] at h
    obtain ⟨hu, ht⟩ := h
    rw [List.flatMap_cons]
    cases u with
    | plain c hc =>
      have hc' : '$' ∉ [c] := hu
      rw [Unit.positional, parameterRuns_append hc', ih ht]
      rfl
    | percent =>
      rw [Unit.positional, parameterRuns_append (by decide), ih ht]
      rfl
    | slot name f nonempty closed known =>
      rw [Unit.positional, parameterRuns_paramText, takeWhile_positional, ih ht, runs]

/-- A rank with digits behind it is another number. -/
theorem readNat?_decimal_append {k : Nat} (hk : 0 < k) {ds : List Char}
    (hds : ∀ c ∈ ds, Text.isDigit c) :
    Text.readNat? (Text.decimal k ++ ds) = some k ↔ ds = [] := by
  rw [Text.readNat?_eq_some_iff, Text.valueOf_append, Text.valueOf_decimal]
  constructor
  · rintro ⟨-, -, hvalue⟩
    by_contra hne
    have hlength : 1 ≤ ds.length := List.length_pos_iff.2 hne
    have hpower : 10 ^ 1 ≤ 10 ^ ds.length := Nat.pow_le_pow_right (by decide) hlength
    have hgreater : k * 10 ^ 1 ≤ k * 10 ^ ds.length := Nat.mul_le_mul_left k hpower
    omega
  · rintro rfl
    refine ⟨by simpa using Text.decimal_ne_nil k, ?_, by simp [Text.valueOf]⟩
    rw [List.append_nil]
    exact fun c hc => Text.isDigit_of_mem_decimal hc

/-- No digits stand in front of a text iff its first unit is none. -/
theorem takeWhile_text_eq_nil_iff {name : List Char} {f : Char} {nonempty : name ≠ []}
    {closed : ')' ∉ name} {known : f ∈ Placeholder.formats} (t : Template) :
    t.text.takeWhile Text.isDigit = [] ↔
      ∀ v ∈ t.head?, (Unit.slot name f nonempty closed known).Apart v := by
  cases t with
  | nil => simp [text]
  | cons u t =>
    rw [text, List.flatMap_cons]
    cases u with
    | plain c h => simp [Unit.text, Unit.Apart, List.takeWhile_cons]
    | percent => simp [Unit.text, Unit.Apart, Text.isDigit, Text.digitVal?]
    | slot name f nonempty closed known =>
      simp [Unit.text, Unit.Apart, Text.isDigit, Text.digitVal?]

theorem rank_pos (ns : List String) (n : String) : 0 < rank ns n := Nat.succ_pos _

/-- The numbers read are the ranks iff no slot has a digit behind it. -/
theorem map_readNat?_runs_iff (ns : List String) (t : Template) :
    (t.runs ns).map Text.readNat? = t.names.map (fun n => some (rank ns n)) ↔
      t.IsChain Unit.Apart := by
  induction t with
  | nil => exact ⟨fun _ => .nil, fun _ => rfl⟩
  | cons u t ih =>
    rw [List.isChain_cons]
    cases u with
    | plain c h => exact ih.trans (by simp [Unit.Apart])
    | percent => exact ih.trans (by simp [Unit.Apart])
    | slot name f nonempty closed known =>
      have hnames : names (.slot name f nonempty closed known :: t) =
          String.ofList name :: names t := rfl
      rw [runs, hnames, List.map_cons, List.map_cons, List.cons.injEq, ih,
        readNat?_decimal_append (rank_pos ns _) fun c hc => List.mem_takeWhile_imp hc,
        takeWhile_text_eq_nil_iff]

/-- The ranks are the numbers from one to that of the different names. -/
theorem mem_ranks_iff {t : Template} {k : Nat} :
    k ∈ t.ranks ↔ 1 ≤ k ∧ k ≤ t.names.eraseDups.length := by
  rw [ranks, List.mem_map]
  constructor
  · rintro ⟨n, hn, rfl⟩
    rw [← idxOf_eraseDups hn]
    have := List.idxOf_lt_length_of_mem (List.mem_eraseDups.2 hn)
    omega
  · rintro ⟨hleast, hgreatest⟩
    have hlt : k - 1 < t.names.eraseDups.length := by omega
    refine ⟨t.names.eraseDups[k - 1], List.mem_eraseDups.1 (List.getElem_mem hlt), ?_⟩
    rw [← idxOf_eraseDups (List.mem_eraseDups.1 (List.getElem_mem hlt)),
      (nodup_eraseDups _).idxOf_getElem]
    omega

/-- There is an argument for each different name. -/
theorem length_args {t : Template} {params : Params} (hn : ∀ n, n ∈ t.names ↔ n ∈ params.keys) :
    (t.names.eraseDups.filterMap params.get?).length = t.names.eraseDups.length := by
  rw [List.length_filterMap_eq_countP]
  exact List.countP_eq_length.2 fun n hm =>
    Keyed.contains_iff.2 ((hn n).1 (List.mem_eraseDups.1 hm))

end Template

theorem compile_eq_compileNamed (sql : String) {params : Params} (hp : params.isEmpty = false) :
    compile sql (some params) = Placeholder.compileNamed sql params := by
  simp [compile, hp]

/-- The text of a template compiles with values for just its names. -/
theorem compile_text {t : Template} {sql : String} {params : Params} (hp : params.isEmpty = false)
    (ht : t.text = sql.toList) (hn : ∀ n, n ∈ t.names ↔ n ∈ params.keys) :
    compile sql (some params) =
      .ok ⟨String.ofList t.positional, t.names.eraseDups.filterMap params.get?⟩ := by
  rw [compile_eq_compileNamed sql hp]
  exact Template.compileNamed_iff.2 ⟨t, ht, hn, rfl⟩

/-- What the server reads in a compiled text whose source has no dollar sign: behind each dollar
sign the rank of a name, and the digits that the source has behind the slot as well. The numbers
read are those ranks exactly when no slot has a digit behind it. The ranks are the numbers from one
to that of the arguments. -/
theorem references_compile {sql : String} {params : Params} {b : Bound}
    (hp : params.isEmpty = false) (hdollar : '$' ∉ sql.toList)
    (hb : compile sql (some params) = .ok b) :
    ∃ t : Template, t.text = sql.toList ∧
      parameterRuns b.sql.toList = t.runs t.names ∧
      (references b.sql.toList = t.ranks.map some ↔ t.IsChain Template.Unit.Apart) ∧
      ∀ k, k ∈ t.ranks ↔ 1 ≤ k ∧ k ≤ b.args.length := by
  rw [compile_eq_compileNamed sql hp] at hb
  obtain ⟨t, ht, hn, rfl⟩ := Template.compileNamed_iff.1 hb
  have hruns : parameterRuns t.positional = t.runs t.names :=
    Template.parameterRuns_positional t.names (by rwa [ht])
  refine ⟨t, ht, ?_, ?_, fun k => ?_⟩
  · rw [String.toList_ofList, hruns]
  · rw [references, String.toList_ofList, hruns, Template.ranks, List.map_map]
    exact Template.map_readNat?_runs_iff t.names t
  · rw [Template.length_args hn]
    exact Template.mem_ranks_iff

/-- A name that is used twice, and a digit that is not directly behind a slot. -/
theorem references_compile_apart :
    let t : Template :=
      [.slot ['b'] 's' (by decide) (by decide) (by decide), .plain '+' (by decide),
        .slot ['a'] 't' (by decide) (by decide) (by decide), .percent, .plain '1' (by decide),
        .slot ['b'] 'b' (by decide) (by decide) (by decide)]
    let sql := "%(b)s+%(a)t%%1%(b)b"
    let params : Params := Keyed.ofList [("a", .null), ("b", .bool true)]
    t.text = sql.toList ∧ params.isEmpty = false ∧ '$' ∉ sql.toList ∧
      compile sql (some params) = .ok ⟨"$1+$2%1$1", [.bool true, .null]⟩ ∧
      references "$1+$2%1$1".toList = [some 1, some 2, some 1] := by
  intro t sql params
  have htext : t.text = sql.toList := by decide
  have hp : params.isEmpty = false := rfl
  have hdollar : '$' ∉ sql.toList := by decide
  have hb : compile sql (some params) = .ok ⟨"$1+$2%1$1", [.bool true, .null]⟩ := by
    have hkeys : params.keys = ["a", "b"] := by decide
    have hnames : t.names = ["b", "a", "b"] := by decide
    have hpositional : String.ofList t.positional = "$1+$2%1$1" := by decide +kernel
    rw [compile_text hp htext fun n => by rw [hkeys, hnames]; grind, hpositional, hnames]
    rfl
  obtain ⟨t', ht', -, hreferences, -⟩ := references_compile hp hdollar hb
  -- the template of a text is unique
  obtain rfl : t' = t := Template.ext_text (ht'.trans htext.symm)
  have hapart : List.IsChain Template.Unit.Apart t := by
    simp only [t, List.isChain_cons_cons, List.isChain_singleton, Template.Unit.Apart]
    decide
  have hranks : t.ranks = [1, 2, 1] := by decide
  refine ⟨htext, hp, hdollar, hb, ?_⟩
  rw [hreferences.2 hapart, hranks]
  rfl

/-- A digit behind a slot makes another number of its rank: there is one argument, and the text asks
for the tenth. -/
theorem not_references_compile :
    let t : Template :=
      [.slot ['a'] 's' (by decide) (by decide) (by decide), .plain '0' (by decide)]
    t.text = "%(a)s0".toList ∧ t.ranks = [1] ∧
      compile "%(a)s0" (some (Keyed.ofList [("a", .null)])) = .ok ⟨"$10", [.null]⟩ ∧
      references "$10".toList = [some 10] := by
  intro t
  have htext : t.text = "%(a)s0".toList := by decide
  have hcompile : compile "%(a)s0" (some (Keyed.ofList [("a", .null)])) = .ok ⟨"$10", [.null]⟩ := by
    have hkeys : (Keyed.ofList [("a", Json.null)]).keys = ["a"] := by decide
    have hnames : t.names = ["a"] := by decide
    have hpositional : String.ofList t.positional = "$10" := by decide +kernel
    rw [compile_text rfl htext fun n => by rw [hkeys, hnames], hpositional, hnames]
    rfl
  exact ⟨htext, by decide, hcompile, by decide⟩

end PgRole.Sql
