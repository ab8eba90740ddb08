import PgRole.Proofs.Sql.Token
import PgRole.Proofs.Except
import PgRole.Sql.Render

/-!
# The tokens of a statement

`Statement.tokens` is what a statement says, as tokens over values: names are themselves, a table is
its parts between dots, and every value is a parameter. A text that `render` gives is read by the
server as exactly these tokens with the values numbered (`reads_fragments`).

A rendered text is made of blocks, which start or end with a name, a value or a word, and of glue
between them, which starts and ends with white space or a mark. `Fragment.Reads` says how a block is
read, and the rules `Reads.glue` and `Reads.joined` put blocks together.
-/

namespace PgRole

open Sql

/-- Tokens with one token between each two of them. -/
def Sql.Token.separated {ν : Type} (t : Token ν) : List (List (Token ν)) → List (Token ν)
  | [] => []
  | [ts] => ts
  | ts :: r => ts ++ t :: separated t r

/-- Whether a condition compares with the empty list, which no row meets. -/
def Condition.isNever (c : Condition) : Bool :=
  match c.value with
  | .arr [] => c.operator.takesList
  | _ => false

/-- The tokens of a condition. -/
def Condition.tokens (c : Condition) : List (Token Json) :=
  if c.isNever then [.word "FALSE"]
  else if c.operator.takesList then
    [.name c.field, .operator "=", .word "ANY", .mark '(', .param c.value, .mark ')']
  else if c.operator = .like then [.name c.field, .word "LIKE", .param c.value]
  else [.name c.field, .operator c.operator.text, .param c.value]

/-- The tokens of an assignment. -/
def Assignment.tokens (a : Assignment) : List (Token Json) :=
  [.name a.field, .operator "=", .param a.value]

/-- The tokens of what a selection returns; an expression is not split. -/
def Fields.tokens : Fields → List (Token Json)
  | all => [.operator "*"]
  | columns names => Token.separated (.mark ',') (names.map fun n => [.name n])
  | raw _ => []

/-- Whether a selection returns an expression as it stands. -/
def Fields.isRaw : Fields → Bool
  | raw _ => true
  | all | columns _ => false

namespace Statement

/-- The tokens of a table: its parts between dots. -/
def tableTokens (t : String) : List (Token Json) :=
  Token.separated (.mark '.') ((t.toList.splitOn '.').map fun part => [.name (String.ofList part)])

/-- The tokens of conditions, none if there are none. -/
def filterTokens (ws : List Condition) (j : Join) : List (Token Json) :=
  if ws.isEmpty then []
  else .word "WHERE" :: Token.separated (.word j.text) (ws.map Condition.tokens)

/-- The tokens of a statement. -/
def tokens : Statement → List (Token Json)
  | select t f ws j _ =>
    .word "SELECT" :: f.tokens ++ .word "FROM" :: tableTokens t ++ filterTokens ws j
  | insert t sets =>
    .word "INSERT" :: .word "INTO" :: tableTokens t ++
      .mark '(' :: Token.separated (.mark ',') (sets.map fun a => [.name a.field]) ++
      .mark ')' :: .word "VALUES" :: .mark '(' ::
      Token.separated (.mark ',') (sets.map fun a => [.param a.value]) ++ [.mark ')']
  | update t sets ws j =>
    .word "UPDATE" :: tableTokens t ++
      .word "SET" :: Token.separated (.mark ',') (sets.map Assignment.tokens) ++ filterTokens ws j
  | delete t ws j => .word "DELETE" :: .word "FROM" :: tableTokens t ++ filterTokens ws j

/-- Whether a statement selects an expression as it stands. -/
def isRaw : Statement → Bool
  | select _ f _ _ _ => f.isRaw
  | insert .. | update .. | delete .. => false

end Statement

namespace Sql

/-! ## Blocks and glue -/

/-- A text without values whose last unit is ended. -/
structure Opening (s : String) (ts : List (Token Json)) : Prop where
  reads : ∀ k, tokens? s.toList = some (Token.number k ts)
  values : Token.values ts = []
  last : s.toList.getLast?.any isBoundary

/-- A text that stands between blocks and ends the unit before it as well. -/
structure Glue (s : String) (ts : List (Token Json)) : Prop extends Opening s ts where
  first : s.toList.head?.any isBoundary

theorem Opening.closed {s : String} {ts : List (Token Json)} (h : Opening s ts) :
    Closed s.toList := by
  intro c hc
  have := h.last
  rw [Option.mem_def.1 hc] at this
  simpa using this

/-- What stands between tokens keeps them apart. -/
theorem Glue.apart {s : String} {ts : List (Token Json)} (h : Glue s ts) (r : List Char) :
    Apart (s.toList ++ r) := by
  intro c hc
  have hf := h.first
  cases hs : s.toList with
  | nil => rw [hs] at hf; cases hf
  | cons d cs =>
    rw [hs] at hf hc
    cases hc
    simpa using hf

namespace Fragment

/-- Fragments are numbered on behind those in front of them. -/
theorem sqlFrom_append (k : Nat) (fs gs : List Fragment) :
    sqlFrom k (fs ++ gs) = sqlFrom k fs ++ sqlFrom (k + (fs.filterMap value?).length) gs := by
  induction fs generalizing k with
  | nil => simp [sqlFrom]
  | cons f fs ih =>
    cases f with
    | value j =>
      simp only [List.cons_append, sqlFrom, ih, List.filterMap_cons, value?, List.length_cons,
        List.append_assoc]
      rw [Nat.add_assoc, Nat.add_comm 1]
    | _ => simp [sqlFrom, ih, List.filterMap_cons, value?]

/-- Fragments are read as tokens, from whatever number their values have. -/
structure Reads (fs : List Fragment) (ts : List (Token Json)) : Prop where
  reads : ∀ k, tokens? (sqlFrom k fs) = some (Token.number k ts)
  values : fs.filterMap value? = Token.values ts

namespace Reads

variable {fs gs : List Fragment} {ts us vs : List (Token Json)} {s : String}

theorem nil : Reads [] [] := ⟨fun _ => tokens?_nil, rfl⟩

theorem name (h : Render.isName s) : Reads [.name s] [.name s] := by
  have hs : s.toList ≠ [] := by
    simp only [Render.isName, Bool.and_eq_true] at h
    simpa using h.1
  refine ⟨fun k => ?_, rfl⟩
  rw [sqlFrom, sqlFrom, List.append_nil, tokens?_quotedName hs, String.ofList_toList]
  rfl

theorem value (j : Json) : Reads [.value j] [.param j] := by
  refine ⟨fun k => ?_, rfl⟩
  rw [sqlFrom, sqlFrom, List.append_nil, tokens?_paramText]
  rfl

theorem text (h : ∀ k, tokens? s.toList = some (Token.number k ts)) (hv : Token.values ts = []) :
    Reads [.text s] ts := by
  refine ⟨fun k => ?_, hv.symm⟩
  rw [sqlFrom, sqlFrom, List.append_nil, h k]

/-- A text that ends its last unit, in front of a block. -/
theorem opening (hs : Opening s us) (hg : Reads gs vs) : Reads (.text s :: gs) (us ++ vs) := by
  constructor
  · intro k
    rw [sqlFrom, tokens?_append (hs.reads k) (.inl hs.closed), hg.reads, Token.number_append,
      hs.values]
    rfl
  · simpa [Token.values_append, hs.values, List.filterMap_cons, value?] using hg.values

/-- Two blocks with glue between them. -/
theorem glue (hf : Reads fs ts) (hs : Glue s us) (hg : Reads gs vs) :
    Reads (fs ++ .text s :: gs) (ts ++ us ++ vs) := by
  have hr := opening hs.toOpening hg
  constructor
  · intro k
    have hb : Apart (sqlFrom (k + (fs.filterMap value?).length) (.text s :: gs)) := hs.apart _
    rw [sqlFrom_append, tokens?_append (hf.reads k) (.inr hb), hr.reads, List.append_assoc,
      Token.number_append k ts, hf.values]
    rfl
  · rw [List.filterMap_append, hf.values, hr.values, List.append_assoc, Token.values_append ts]

/-- Blocks with glue of one token between each two of them. -/
theorem joined {t : Token Json} (hs : Glue s [t]) {parts : List (List Fragment)}
    {tss : List (List (Token Json))} (h : List.Forall₂ Reads parts tss) :
    Reads (Fragment.joined s parts) (Token.separated t tss) := by
  induction h with
  | nil => exact nil
  | @cons f ts parts tss hf hr ih =>
    cases hr with
    | nil => exact hf
    | cons hf' hr' => simpa [Fragment.joined, Token.separated] using hf.glue hs ih

end Reads

end Fragment

/-! ## The texts between blocks -/

theorem opening_select : Opening "SELECT " [.word "SELECT"] :=
  ⟨fun _ => tokens?_of_tokensWithin 8 rfl, rfl, by decide⟩

theorem opening_insert : Opening "INSERT INTO " [.word "INSERT", .word "INTO"] :=
  ⟨fun _ => tokens?_of_tokensWithin 8 rfl, rfl, by decide⟩

theorem opening_update : Opening "UPDATE " [.word "UPDATE"] :=
  ⟨fun _ => tokens?_of_tokensWithin 8 rfl, rfl, by decide⟩

theorem opening_delete : Opening "DELETE FROM " [.word "DELETE", .word "FROM"] :=
  ⟨fun _ => tokens?_of_tokensWithin 8 rfl, rfl, by decide⟩

theorem glue_dot : Glue "." [.mark '.'] :=
  ⟨⟨fun _ => tokens?_of_tokensWithin 8 rfl, rfl, by decide⟩, by decide⟩

theorem glue_comma : Glue ", " [.mark ','] :=
  ⟨⟨fun _ => tokens?_of_tokensWithin 8 rfl, rfl, by decide⟩, by decide⟩

theorem glue_open : Glue " (" [.mark '('] :=
  ⟨⟨fun _ => tokens?_of_tokensWithin 8 rfl, rfl, by decide⟩, by decide⟩

theorem glue_close : Glue ")" [.mark ')'] :=
  ⟨⟨fun _ => tokens?_of_tokensWithin 8 rfl, rfl, by decide⟩, by decide⟩

theorem glue_from : Glue " FROM " [.word "FROM"] :=
  ⟨⟨fun _ => tokens?_of_tokensWithin 8 rfl, rfl, by decide⟩, by decide⟩

theorem glue_set : Glue " SET " [.word "SET"] :=
  ⟨⟨fun _ => tokens?_of_tokensWithin 8 rfl, rfl, by decide⟩, by decide⟩

theorem glue_where : Glue " WHERE " [.word "WHERE"] :=
  ⟨⟨fun _ => tokens?_of_tokensWithin 8 rfl, rfl, by decide⟩, by decide⟩

theorem glue_equals : Glue " = " [.operator "="] :=
  ⟨⟨fun _ => tokens?_of_tokensWithin 8 rfl, rfl, by decide⟩, by decide⟩

theorem glue_like : Glue " LIKE " [.word "LIKE"] :=
  ⟨⟨fun _ => tokens?_of_tokensWithin 8 rfl, rfl, by decide⟩, by decide⟩

theorem glue_any : Glue " = ANY(" [.operator "=", .word "ANY", .mark '('] :=
  ⟨⟨fun _ => tokens?_of_tokensWithin 8 rfl, rfl, by decide⟩, by decide⟩

theorem glue_values : Glue ") VALUES (" [.mark ')', .word "VALUES", .mark '('] :=
  ⟨⟨fun _ => tokens?_of_tokensWithin 8 rfl, rfl, by decide⟩, by decide⟩

theorem glue_join (j : Join) : Glue (Render.joinText j) [.word j.text] := by
  cases j
  all_goals exact ⟨⟨fun _ => tokens?_of_tokensWithin 8 rfl, rfl, by decide⟩, by decide⟩

theorem glue_operator {o : Operator} (hl : o.takesList = false) (hk : o ≠ .like) :
    Glue (" " ++ o.text ++ " ") [.operator o.text] := by
  cases o
  case isIn => cases hl
  case like => exact absurd rfl hk
  all_goals exact ⟨⟨fun _ => tokens?_of_tokensWithin 8 rfl, rfl, by decide⟩, by decide⟩

/-! ## The blocks of statements -/

namespace Render

open Fragment

/-- The text of a name is read as the name. -/
theorem reads_name {s : String} {fs : List Fragment} (h : name s = .ok fs) :
    Reads fs [.name s] := by
  rw [name] at h
  split at h
  · cases h
    exact Reads.name ‹_›
  · cases h

theorem dotParts_eq_splitOn (cs : List Char) : dotParts cs = cs.splitOn '.' := by
  fun_induction dotParts cs with
  | case1 => rfl
  | case2 r ih => simp [ih, List.splitOn_cons_eq_if_modifyHead]
  | case3 c r hc hnil ih => exact absurd ih.symm (by simp [hnil, List.splitOn_ne_nil])
  | case4 c r hc p ps hp ih =>
    have : c ≠ '.' := hc
    simp [List.splitOn_cons_eq_if_modifyHead, this, ← ih, hp]

theorem forall₂_of_mapM {α : Type} {f : α → Except Fault (List Fragment)} {l : List α}
    {tokens : α → List (Token Json)} (hf : ∀ a fs, f a = .ok fs → Reads fs (tokens a))
    {parts : List (List Fragment)} (h : l.mapM f = .ok parts) :
    List.Forall₂ Reads parts (l.map tokens) := by
  have := (mapM_eq_ok_iff.1 h).imp fun a fs => hf a fs
  rw [List.forall₂_map_right_iff]
  exact this.flip

theorem reads_table {t : String} {fs : List Fragment} (h : table t = .ok fs) :
    Reads fs (Statement.tableTokens t) := by
  obtain ⟨parts, hparts, h⟩ := bind_eq_ok_iff.1 h
  cases h
  rw [dotParts_eq_splitOn] at hparts
  exact Reads.joined glue_dot (forall₂_of_mapM (fun _ _ => reads_name) hparts)

/-- The text of a condition is read as its tokens. -/
theorem reads_condition {c : Condition} {fs : List Fragment} (h : condition c = .ok fs) :
    Reads fs c.tokens := by
  rw [condition] at h
  split at h
  · rename_i hl
    split at h
    · -- an empty list holds of nothing, and is written without the field
      rename_i hv
      cases h
      have hn : c.isNever := by simp [Condition.isNever, hv, hl]
      rw [Condition.tokens, if_pos hn]
      exact Reads.text (fun _ => tokens?_of_tokensWithin 8 rfl) rfl
    · rename_i js hjs hv
      obtain ⟨n, hname, h⟩ := bind_eq_ok_iff.1 h
      cases h
      have hn : ¬ c.isNever := by
        cases js with
        | nil => exact (hjs rfl).elim
        | cons j js => simp [Condition.isNever, hv]
      rw [Condition.tokens, if_neg hn, if_pos hl]
      exact (reads_name hname).glue glue_any ((Reads.value c.value).glue glue_close .nil)
    · cases h
  · rename_i hl
    obtain ⟨n, hname, h⟩ := bind_eq_ok_iff.1 h
    cases h
    have hn : ¬ c.isNever := by
      rw [Condition.isNever]
      split <;> simp_all
    rw [Condition.tokens, if_neg hn, if_neg hl]
    by_cases hk : c.operator = .like
    · rw [if_pos hk, if_pos hk]
      exact (reads_name hname).glue glue_like (Reads.value c.value)
    · rw [if_neg hk, if_neg hk]
      exact (reads_name hname).glue (glue_operator (by simpa using hl) hk) (Reads.value c.value)

theorem reads_assignment {a : Assignment} {fs : List Fragment} (h : assignment a = .ok fs) :
    Reads fs a.tokens := by
  obtain ⟨n, hn, h⟩ := bind_eq_ok_iff.1 h
  cases h
  exact (reads_name hn).glue glue_equals (Reads.value a.value)

/-- The text of fields is read as their tokens. -/
theorem reads_fields {f : Fields} (hr : f.isRaw = false) {fs : List Fragment}
    (h : fields f = .ok fs) : Reads fs f.tokens := by
  cases f with
  | all =>
    cases h
    exact Reads.text (fun _ => tokens?_of_tokensWithin 8 rfl) rfl
  | columns names =>
    cases names with
    | nil => cases h
    | cons n names =>
      obtain ⟨parts, hparts, h⟩ := bind_eq_ok_iff.1 h
      cases h
      exact Reads.joined glue_comma (forall₂_of_mapM (fun _ _ => reads_name) hparts)
  | raw expression => cases hr

/-- Conditions follow a block. -/
theorem Reads.wheres {gs : List Fragment} {ts : List (Token Json)} (hg : Reads gs ts)
    {ws : List Condition} {j : Join} {fs : List Fragment} (h : wheres ws j = .ok fs) :
    Reads (gs ++ fs) (ts ++ Statement.filterTokens ws j) := by
  rw [Render.wheres] at h
  rw [Statement.filterTokens]
  split at h
  · rename_i hw
    cases h
    rw [if_pos hw, List.append_nil, List.append_nil]
    exact hg
  · rename_i hw
    obtain ⟨parts, hparts, h⟩ := bind_eq_ok_iff.1 h
    cases h
    rw [if_neg hw]
    have hws := Reads.joined (glue_join j) (forall₂_of_mapM (fun _ _ => reads_condition) hparts)
    simpa using hg.glue glue_where hws

/-- A rendered statement is read as its tokens. -/
theorem reads_fragments {s : Statement} (hr : s.isRaw = false) {fs : List Fragment}
    (h : fragments s = .ok fs) : Reads fs s.tokens := by
  cases s with
  | select t f ws j m =>
    obtain ⟨selected, hselected, h⟩ := bind_eq_ok_iff.1 h
    obtain ⟨target, htarget, h⟩ := bind_eq_ok_iff.1 h
    obtain ⟨filter, hfilter, h⟩ := bind_eq_ok_iff.1 h
    cases h
    have := ((reads_fields hr hselected).glue glue_from (reads_table htarget)).opening
      opening_select
    simpa [Statement.tokens] using Reads.wheres this hfilter
  | insert t sets =>
    cases sets with
    | nil => cases h
    | cons a sets =>
      obtain ⟨target, htarget, h⟩ := bind_eq_ok_iff.1 h
      obtain ⟨names, hnames, h⟩ := bind_eq_ok_iff.1 h
      cases h
      have hn := Reads.joined glue_comma
        (forall₂_of_mapM (fun (a : Assignment) _ => reads_name) hnames)
      -- the values are written apart from the fields, so they are read as a list of their own
      have hv : List.Forall₂ Reads ((a :: sets).map fun a => [Fragment.value a.value])
          ((a :: sets).map fun a => [Token.param a.value]) := by
        rw [List.forall₂_map_left_iff, List.forall₂_map_right_iff]
        exact List.forall₂_same.2 fun a _ => Reads.value a.value
      have := (((reads_table htarget).glue glue_open hn).glue glue_values
        ((Reads.joined glue_comma hv).glue glue_close .nil)).opening opening_insert
      simpa [Statement.tokens] using this
  | update t sets ws j =>
    cases sets with
    | nil => cases h
    | cons a sets =>
      obtain ⟨target, htarget, h⟩ := bind_eq_ok_iff.1 h
      obtain ⟨assignments, hassignments, h⟩ := bind_eq_ok_iff.1 h
      obtain ⟨filter, hfilter, h⟩ := bind_eq_ok_iff.1 h
      cases h
      have ha := Reads.joined glue_comma
        (forall₂_of_mapM (fun _ _ => reads_assignment) hassignments)
      have := ((reads_table htarget).glue glue_set ha).opening opening_update
      simpa [Statement.tokens] using Reads.wheres this hfilter
  | delete t ws j =>
    obtain ⟨target, htarget, h⟩ := bind_eq_ok_iff.1 h
    obtain ⟨filter, hfilter, h⟩ := bind_eq_ok_iff.1 h
    cases h
    have := (reads_table htarget).opening opening_delete
    simpa [Statement.tokens] using Reads.wheres this hfilter

end Render

end Sql

end PgRole
