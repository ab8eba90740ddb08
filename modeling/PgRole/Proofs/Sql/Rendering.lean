import PgRole.Proofs.Sql.StatementTokens

/-!
# A rendered statement gives the statement back

`Statement.shown` is the part of a statement that its text shows. Left out are the field of a
condition that compares with the empty list, the join of fewer than two conditions, and how many
rows are fetched.

* `Statement.shown_eq_of_tokens_eq`: equal tokens show equal statements.
* `tokens?_render`: the text of a statement is read as the tokens of the statement, each parameter
  once and in order, and text and values together determine what is shown.
-/

namespace PgRole

open Sql

/-- A condition without the field, if it compares with the empty list. -/
def Condition.shown (c : Condition) : Condition := if c.isNever then { c with field := "" } else c

/-- A list of columns has an entry. -/
def Fields.Filled : Fields → Prop
  | columns names => names ≠ []
  | all | raw _ => True

namespace Statement

/-- The assignments of a statement. -/
def sets : Statement → List Assignment
  | insert _ sets => sets
  | update _ sets _ _ => sets
  | select .. | delete .. => []

/-- The conditions of a statement. -/
def wheres : Statement → List Condition
  | select _ _ ws _ _ => ws
  | update _ _ ws _ => ws
  | delete _ ws _ => ws
  | insert .. => []

/-- The values of a statement: those of its assignments, then those of its conditions except where
a condition compares with the empty list. -/
def values (s : Statement) : List Json :=
  s.sets.map Assignment.value ++ (s.wheres.filter fun c => !c.isNever).map Condition.value

/-- A join, if it stands between any of so many conditions. -/
def shownJoin (n : Nat) (j : Join) : Join := if n < 2 then .and else j

/-- The part of a statement that its text shows. -/
def shown : Statement → Statement
  | insert t sets => insert t sets
  | select t f ws j _ => select t f (ws.map Condition.shown) (shownJoin ws.length j) .one
  | update t sets ws j => update t sets (ws.map Condition.shown) (shownJoin ws.length j)
  | delete t ws j => delete t (ws.map Condition.shown) (shownJoin ws.length j)

/-- Every list of columns or assignments of a statement has an entry. -/
def Filled : Statement → Prop
  | insert _ sets => sets ≠ []
  | update _ sets _ _ => sets ≠ []
  | select _ f _ _ _ => f.Filled
  | delete .. => True

end Statement

/-! ## Reading what is separated -/

namespace Sql.Token

variable {ν α β : Type} {t t' : Token ν} {r r' : List (Token ν)}

theorem separated_cons_cons (x y : List (Token ν)) (l : List (List (Token ν))) :
    separated t (x :: y :: l) ++ r = x ++ t :: (separated t (y :: l) ++ r) := by
  simp [separated]

theorem separated_cons (u : Token ν) (x : List (Token ν)) (l : List (List (Token ν))) :
    ∃ ts, separated t ((u :: x) :: l) = u :: ts := by
  cases l <;> exact ⟨_, rfl⟩

/-- A token that is not the separator is in one of the parts. -/
theorem mem_separated {u : Token ν} (hu : u ≠ t) {l : List (List (Token ν))} :
    u ∈ separated t l ↔ ∃ x ∈ l, u ∈ x := by
  induction l with
  | nil => simp [separated]
  | cons x l ih =>
    cases l with
    | nil => simp [separated]
    | cons y l =>
      rw [separated, List.mem_append, List.mem_cons, ih]
      · simp [hu]
      · simp

/-- Parts with a separator between them have the values of the parts. -/
theorem values_separated {t : Token Json} (ht : t.param? = none)
    (l : List (List (Token Json))) : values (separated t l) = l.flatMap values := by
  induction l with
  | nil => rfl
  | cons x l ih =>
    cases l with
    | nil => simp [separated]
    | cons y l =>
      rw [separated, values_append, values, values, List.filterMap_cons, ht]
      · exact congrArg _ ih
      · simp

theorem values_separated_mark (c : Char) (l : List (List (Token Json))) :
    values (separated (mark c) l) = l.flatMap values := values_separated rfl l

/-- Where each part tells what it shows and where it ends, the whole does, and the separator too
if it stands there. -/
theorem separated_unique {part : α → List (Token ν)} {shown : α → β}
    (hpart : ∀ {a a' : α} {r r' : List (Token ν)}, part a ++ r = part a' ++ r' →
      shown a = shown a' ∧ r = r')
    {l l' : List α} (hl : l ≠ []) (hl' : l' ≠ []) (hr : r.head? ≠ some t')
    (hr' : r'.head? ≠ some t)
    (h : separated t (l.map part) ++ r = separated t' (l'.map part) ++ r') :
    l.map shown = l'.map shown ∧ r = r' ∧ (2 ≤ l.length → t = t') := by
  induction l generalizing l' with
  | nil => exact absurd rfl hl
  | cons a l ih =>
    cases l' with
    | nil => exact absurd rfl hl'
    | cons a' l' =>
      cases l with
      | nil =>
        cases l' with
        | nil => simpa [separated] using hpart h
        | cons b' l' =>
          -- The text on the left ends where the one on the right has a separator.
          obtain ⟨-, h⟩ := hpart (h.trans (separated_cons_cons _ _ _))
          rw [h] at hr
          exact absurd rfl hr
      | cons b l =>
        cases l' with
        | nil =>
          obtain ⟨-, h⟩ := hpart (h.symm.trans (separated_cons_cons _ _ _))
          rw [h] at hr'
          exact absurd rfl hr'
        | cons b' l' =>
          have hsplit := h.trans (separated_cons_cons _ _ _)
          rw [List.map_cons, List.map_cons, separated_cons_cons] at hsplit
          obtain ⟨ha, hsplit⟩ := hpart hsplit
          injection hsplit with ht hrest
          obtain ⟨hm, hrr, -⟩ := ih (List.cons_ne_nil b l) (List.cons_ne_nil b' l') hrest
          refine ⟨?_, hrr, fun _ => ht⟩
          rw [List.map_cons, hm, ha, ← List.map_cons]

/-- Parts of one token each. -/
theorem separated_unit_unique {unit : α → Token ν} (hunit : Function.Injective unit)
    {l l' : List α} (hl : l ≠ []) (hl' : l' ≠ []) (hr : r.head? ≠ some t)
    (hr' : r'.head? ≠ some t)
    (h : separated t (l.map fun a => [unit a]) ++ r =
      separated t (l'.map fun a => [unit a]) ++ r') : l = l' ∧ r = r' := by
  have hpart {a a' : α} {r r' : List (Token ν)} (h : [unit a] ++ r = [unit a'] ++ r') :
      id a = id a' ∧ r = r' := by
    injection h with ha hr
    exact ⟨hunit ha, hr⟩
  obtain ⟨hm, hr, -⟩ := separated_unique hpart hl hl' hr hr' h
  rw [List.map_id, List.map_id] at hm
  exact ⟨hm, hr⟩

end Sql.Token

/-! ## The parts of a statement -/

theorem Join.text_injective : Function.Injective Join.text := by
  intro j j' h
  cases j <;> cases j' <;> first | rfl | exact absurd h (by decide)

namespace Condition

/-- A condition that is never met shows as such, whatever its field is. -/
theorem shown_of_isNever {c : Condition} (h : c.isNever) : c.shown = ⟨"", .arr [], .isIn⟩ := by
  obtain ⟨f, v, o⟩ := c
  rw [shown, if_pos h]
  rw [isNever] at h
  split at h
  · rename_i hv
    cases hv
    cases o <;> first | rfl | cases h
  · cases h

theorem tokens_of_isNever {c : Condition} (h : c.isNever) : c.tokens = [.word "FALSE"] := if_pos h

theorem values_tokens (c : Condition) :
    Token.values c.tokens = if c.isNever then [] else [c.value] := by
  rw [tokens]
  split_ifs <;> rfl

theorem head_tokens {c : Condition} (h : ¬ c.isNever) :
    ∃ ts, c.tokens = .name c.field :: ts := by
  rw [tokens, if_neg h]
  split_ifs <;> exact ⟨_, rfl⟩

/-- A condition tells what it shows and where it ends. -/
theorem tokens_unique {c c' : Condition} {r r' : List (Token Json)}
    (h : c.tokens ++ r = c'.tokens ++ r') : c.shown = c'.shown ∧ r = r' := by
  by_cases hn : c.isNever
  · by_cases hn' : c'.isNever
    · rw [tokens_of_isNever hn, tokens_of_isNever hn'] at h
      rw [shown_of_isNever hn, shown_of_isNever hn']
      injection h with _ hr
      exact ⟨rfl, hr⟩
    · obtain ⟨ts, hts⟩ := head_tokens hn'
      rw [tokens_of_isNever hn, hts] at h
      injection h with h _
      cases h
  · by_cases hn' : c'.isNever
    · obtain ⟨ts, hts⟩ := head_tokens hn
      rw [tokens_of_isNever hn', hts] at h
      injection h with h _
      cases h
    · obtain ⟨f, v, o⟩ := c
      obtain ⟨f', v', o'⟩ := c'
      rw [shown, shown, if_neg hn, if_neg hn']
      rw [tokens, tokens, if_neg hn, if_neg hn'] at h
      -- Each operator is told from the others by its second token, equality and membership by
      -- the third.
      cases o <;> cases o' <;> simp [Operator.takesList, Operator.text] at h
      all_goals
        obtain ⟨rfl, rfl, rfl⟩ := h
        exact ⟨rfl, rfl⟩

end Condition

namespace Assignment

theorem tokens_unique {a a' : Assignment} {r r' : List (Token Json)}
    (h : a.tokens ++ r = a'.tokens ++ r') : id a = id a' ∧ r = r' := by
  obtain ⟨f, v⟩ := a
  obtain ⟨f', v'⟩ := a'
  simpa [tokens, and_assoc] using h

theorem ext_lists {l l' : List Assignment} (hf : l.map field = l'.map field)
    (hv : l.map value = l'.map value) : l = l' := by
  induction l generalizing l' with
  | nil => simpa using hf.symm
  | cons a l ih =>
    cases l' with
    | nil => simp at hf
    | cons a' l' =>
      obtain ⟨f, v⟩ := a
      obtain ⟨f', v'⟩ := a'
      simp only [List.map_cons, List.cons.injEq] at hf hv
      rw [hf.1, hv.1, ih hf.2 hv.2]

end Assignment

namespace Fields

theorem tokens_unique {f f' : Fields} {r r' : List (Token Json)} (hraw : f.isRaw = false)
    (hraw' : f'.isRaw = false) (hf : f.Filled) (hf' : f'.Filled)
    (hr : r.head? ≠ some (.mark ',')) (hr' : r'.head? ≠ some (.mark ','))
    (h : f.tokens ++ r = f'.tokens ++ r') : f = f' ∧ r = r' := by
  have hall {names : List String} {r r' : List (Token Json)} (hn : names ≠ [])
      (h : all.tokens ++ r = (columns names).tokens ++ r') : False := by
    obtain ⟨n, ns, rfl⟩ := List.exists_cons_of_ne_nil hn
    obtain ⟨ts, hts⟩ := Token.separated_cons (t := .mark ',') (.name n) []
      (ns.map fun n => [(Token.name n : Token Json)])
    rw [tokens, tokens, List.map_cons, hts] at h
    injection h with h _
    cases h
  cases f with
  | raw => cases hraw
  | all =>
    cases f' with
    | raw => cases hraw'
    | all => simpa [tokens] using h
    | columns names' => exact (hall hf' h).elim
  | columns names =>
    cases f' with
    | raw => cases hraw'
    | all => exact (hall hf h.symm).elim
    | columns names' =>
      have hunit : Function.Injective (Token.name : String → Token Json) :=
        fun n n' h => by injection h
      obtain ⟨rfl, hrest⟩ := Token.separated_unit_unique hunit hf hf' hr hr' h
      exact ⟨rfl, hrest⟩

end Fields

namespace Statement

/-- A table is told by its tokens, if no dot follows. -/
theorem tableTokens_unique {t t' : String} {r r' : List (Token Json)}
    (hr : r.head? ≠ some (.mark '.')) (hr' : r'.head? ≠ some (.mark '.'))
    (h : tableTokens t ++ r = tableTokens t' ++ r') : t = t' ∧ r = r' := by
  let unit (part : List Char) : Token Json := .name (String.ofList part)
  have hunit : Function.Injective unit := by
    intro part part' h
    injection h with h
    exact String.ofList_injective h
  obtain ⟨hparts, hrest⟩ := Token.separated_unit_unique hunit
    (List.splitOn_ne_nil '.' t.toList) (List.splitOn_ne_nil '.' t'.toList) hr hr' h
  have := congrArg (List.intercalate ['.']) hparts
  rw [List.intercalate_splitOn, List.intercalate_splitOn] at this
  exact ⟨String.toList_injective this, hrest⟩

theorem head_filterTokens {ws : List Condition} {j : Join} {t : Token Json}
    (ht : t ≠ .word "WHERE") : (filterTokens ws j).head? ≠ some t := by
  rw [filterTokens]
  split_ifs
  · simp
  · simpa using ht.symm

/-- Conditions are told by their tokens, as far as they show. -/
theorem filterTokens_unique {ws ws' : List Condition} {j j' : Join}
    (h : filterTokens ws j = filterTokens ws' j') :
    ws.map Condition.shown = ws'.map Condition.shown ∧
      shownJoin ws.length j = shownJoin ws'.length j' := by
  cases ws with
  | nil =>
    cases ws' with
    | nil => exact ⟨rfl, rfl⟩
    | cons w' ws' => cases h
  | cons w ws =>
    cases ws' with
    | nil => cases h
    | cons w' ws' =>
      injection h with _ h
      have h := congrArg (· ++ []) h
      obtain ⟨hm, -, hj⟩ := Token.separated_unique Condition.tokens_unique (List.cons_ne_nil w ws)
        (List.cons_ne_nil w' ws') (by simp) (by simp) h
      refine ⟨hm, ?_⟩
      have hlen : (w :: ws).length = (w' :: ws').length := by
        simpa using congrArg List.length hm
      rw [shownJoin, shownJoin, ← hlen]
      split_ifs with hn
      · rfl
      · have := hj (by omega)
        injection this with this
        exact Join.text_injective this

/-- Equal tokens show equal statements. -/
theorem shown_eq_of_tokens_eq {s s' : Statement} (hraw : s.isRaw = false)
    (hraw' : s'.isRaw = false) (hs : s.Filled) (hs' : s'.Filled) (h : s.tokens = s'.tokens) :
    s.shown = s'.shown := by
  -- the first word tells the kinds apart; then the parts are taken off in their order, each up to a
  -- token that cannot go on with it
  cases s with
  | select t f ws j m =>
    cases s' with
    | select t' f' ws' j' m' =>
      simp only [tokens, List.cons_append, List.append_assoc, List.cons.injEq, true_and] at h
      obtain ⟨hf, h⟩ := Fields.tokens_unique hraw hraw' hs hs' (by simp) (by simp) h
      injection h with _ h
      obtain ⟨ht, h⟩ := tableTokens_unique (head_filterTokens (by simp))
        (head_filterTokens (by simp)) h
      obtain ⟨hw, hj⟩ := filterTokens_unique h
      rw [shown, shown, hf, ht, hw, hj]
    | _ => simp [tokens] at h
  | insert t sets =>
    cases s' with
    | insert t' sets' =>
      simp only [tokens, List.cons_append, List.append_assoc, List.cons.injEq, true_and] at h
      obtain ⟨ht, h⟩ := tableTokens_unique (by simp) (by simp) h
      injection h with _ h
      -- the fields stand before the values, so the assignments are two lists to be put together
      have hname {a a' : Assignment} {r r' : List (Token Json)}
          (h : [Token.name a.field] ++ r = [Token.name a'.field] ++ r') :
          a.field = a'.field ∧ r = r' := by simpa using h
      have hvalue {a a' : Assignment} {r r' : List (Token Json)}
          (h : [Token.param a.value] ++ r = [Token.param a'.value] ++ r') :
          a.value = a'.value ∧ r = r' := by simpa using h
      obtain ⟨hfields, h, -⟩ := Token.separated_unique hname hs hs' (by simp) (by simp) h
      simp only [List.cons.injEq, true_and] at h
      obtain ⟨hvalues, -, -⟩ := Token.separated_unique hvalue hs hs' (by simp) (by simp) h
      rw [shown, shown, ht, Assignment.ext_lists hfields hvalues]
    | _ => simp [tokens] at h
  | update t sets ws j =>
    cases s' with
    | update t' sets' ws' j' =>
      simp only [tokens, List.cons_append, List.append_assoc, List.cons.injEq, true_and] at h
      obtain ⟨ht, h⟩ := tableTokens_unique (by simp) (by simp) h
      injection h with _ h
      obtain ⟨hsets, h, -⟩ := Token.separated_unique Assignment.tokens_unique hs hs'
        (head_filterTokens (by simp)) (head_filterTokens (by simp)) h
      rw [List.map_id, List.map_id] at hsets
      obtain ⟨hw, hj⟩ := filterTokens_unique h
      rw [shown, shown, ht, hsets, hw, hj]
    | _ => simp [tokens] at h
  | delete t ws j =>
    cases s' with
    | delete t' ws' j' =>
      simp only [tokens, List.cons_append, List.cons.injEq, true_and] at h
      obtain ⟨ht, h⟩ := tableTokens_unique (head_filterTokens (by simp))
        (head_filterTokens (by simp)) h
      obtain ⟨hw, hj⟩ := filterTokens_unique h
      rw [shown, shown, ht, hw, hj]
    | _ => simp [tokens] at h

/-! ## Values and words -/

theorem values_tableTokens (t : String) : Token.values (tableTokens t) = [] := by
  rw [tableTokens, Token.values_separated_mark]
  simp

/-- The values of conditions are those of the conditions that can be met. -/
theorem values_filterTokens (ws : List Condition) (j : Join) :
    Token.values (filterTokens ws j) = (ws.filter fun c => !c.isNever).map Condition.value := by
  rw [filterTokens]
  split_ifs with hw
  · rw [List.isEmpty_iff.1 hw]
    rfl
  · rw [Token.values_word, Token.values_separated rfl, List.flatMap_map]
    clear hw
    induction ws with
    | nil => rfl
    | cons c ws ih =>
      rw [List.flatMap_cons, ih, Condition.values_tokens, List.filter_cons]
      cases c.isNever <;> rfl

theorem values_assignments (sets : List Assignment) :
    (sets.flatMap fun a => [a.value]) = sets.map Assignment.value :=
  List.map_eq_flatMap.symm

/-- The values of the tokens are those of the statement. -/
theorem values_tokens (s : Statement) : Token.values s.tokens = s.values := by
  cases s with
  | select t f ws j m =>
    have hf : Token.values f.tokens = [] := by
      cases f <;> simp [Fields.tokens, Token.values_separated_mark]
    simp [tokens, values, sets, wheres, Token.values_append, hf, values_tableTokens,
      values_filterTokens]
  | insert t sets =>
    simp [tokens, values, Statement.sets, wheres, Token.values_append,
      Token.values_separated_mark, List.flatMap_map, values_tableTokens, values_assignments]
  | update t sets ws j =>
    simp [tokens, values, Statement.sets, wheres, Token.values_append,
      Token.values_separated_mark, List.flatMap_map, Assignment.tokens, values_tableTokens,
      values_filterTokens, values_assignments]
  | delete t ws j =>
    simp [tokens, values, sets, wheres, Token.values_append, values_tableTokens,
      values_filterTokens]

theorem where_not_mem_tableTokens (t : String) : Token.word "WHERE" ∉ tableTokens t := by
  simp [tableTokens, Token.mem_separated]

theorem where_mem_filterTokens {ws : List Condition} {j : Join} :
    Token.word "WHERE" ∈ filterTokens ws j ↔ ws ≠ [] := by
  rw [filterTokens]
  split_ifs with hw
  · simpa using hw
  · simpa using hw

/-- The word of the conditions stands in a statement with conditions and in no other. -/
theorem where_mem_tokens {s : Statement} : Token.word "WHERE" ∈ s.tokens ↔ s.wheres ≠ [] := by
  cases s with
  | select t f ws j m =>
    have hf : Token.word "WHERE" ∉ f.tokens := by
      cases f <;> simp [Fields.tokens, Token.mem_separated]
    simp [tokens, wheres, hf, where_not_mem_tableTokens, where_mem_filterTokens]
  | insert t sets => simp [tokens, wheres, Token.mem_separated, where_not_mem_tableTokens]
  | update t sets ws j =>
    simp [tokens, wheres, Token.mem_separated, Assignment.tokens, where_not_mem_tableTokens,
      where_mem_filterTokens]
  | delete t ws j => simp [tokens, wheres, where_not_mem_tableTokens, where_mem_filterTokens]

end Statement

namespace Sql

/-- A statement that has a text has entries in its lists. -/
theorem Render.filled_of_fragments {s : Statement} {fs : List Fragment}
    (h : fragments s = .ok fs) : s.Filled := by
  cases s with
  | select t f ws j m =>
    cases f with
    | columns names =>
      rintro rfl
      obtain ⟨selected, hselected, -⟩ := bind_eq_ok_iff.1 h
      cases hselected
    | _ => trivial
  | insert t sets =>
    rintro rfl
    cases h
  | update t sets ws j =>
    rintro rfl
    cases h
  | delete t ws j => trivial

/-- A rendered text is read as the tokens of the statement, and its values are those of the
statement. -/
theorem reads_render {s : Statement} {b : Bound} (hraw : s.isRaw = false) (h : render s = .ok b) :
    tokens? b.sql.toList = some (Token.number 1 s.tokens) ∧ b.args = s.values ∧ s.Filled := by
  rw [render] at h
  cases hf : Render.fragments s with
  | error e =>
    rw [hf] at h
    cases h
  | ok fs =>
    rw [hf] at h
    cases h
    have hr := Render.reads_fragments hraw hf
    refine ⟨?_, hr.values.trans s.values_tokens, Render.filled_of_fragments hf⟩
    rw [Bound.ofFragments, String.toList_ofList]
    exact hr.reads 1

/-- The text of a statement is read as the tokens of the statement: its names as they are, its
values as the parameters from one on in the order in which they stand, the word of the conditions
if it has any. Text and values determine what the text shows of the statement. -/
theorem tokens?_render {s : Statement} {b : Bound} (hraw : s.isRaw = false)
    (h : render s = .ok b) :
    tokens? b.sql.toList = some (Token.number 1 s.tokens) ∧
    b.args = s.values ∧
    (Token.number 1 s.tokens).filterMap Token.param? = List.range' 1 b.args.length ∧
    (Token.word "WHERE" ∈ Token.number 1 s.tokens ↔ s.wheres ≠ []) ∧
    ∀ {s' : Statement} {b' : Bound}, s'.isRaw = false → render s' = .ok b' →
      b'.sql = b.sql → b'.args = b.args → s'.shown = s.shown := by
  obtain ⟨htokens, hargs, hfilled⟩ := reads_render hraw h
  refine ⟨htokens, hargs, ?_, Token.word_mem_number.trans Statement.where_mem_tokens, ?_⟩
  · rw [Token.params_number, s.values_tokens, hargs]
  · intro s' b' hraw' h' hsql hargs'
    obtain ⟨htokens', hvalues', hfilled'⟩ := reads_render hraw' h'
    rw [hsql, htokens] at htokens'
    injection htokens' with hnumber
    refine Statement.shown_eq_of_tokens_eq hraw' hraw hfilled' hfilled ?_
    refine Token.number_injective hnumber.symm ?_
    rw [s'.values_tokens, s.values_tokens, ← hvalues', ← hargs, hargs']

/-- A deletion whose names hold quotes, words, dollar signs and dots. -/
def awkwardDelete : Statement :=
  .delete "a\"b.c$1" [⟨"x\" OR \"y", .str "v", .equal⟩, ⟨"k.w", .arr [], .isIn⟩,
    ⟨"z;", .null, .like⟩] .or

/-- Names with quotes, dots, dollar signs and a semicolon are single tokens, and the values are not
in the text. -/
theorem tokens?_render_awkward : ∃ b, render awkwardDelete = .ok b ∧
    tokens? b.sql.toList = some [.word "DELETE", .word "FROM", .name "a\"b", .mark '.',
      .name "c$1", .word "WHERE", .name "x\" OR \"y", .operator "=", .param 1, .word "OR",
      .word "FALSE", .word "OR", .name "z;", .word "LIKE", .param 2] ∧
    b.args = [.str "v", .null] := by
  refine ⟨_, rfl, ?_⟩
  obtain ⟨htokens, hargs, -⟩ := tokens?_render (s := awkwardDelete) rfl rfl
  exact ⟨htokens, hargs⟩

end Sql

end PgRole
