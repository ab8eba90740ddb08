import Mathlib.Data.List.Induction
import PgRole.CommandLine.Pairs
import PgRole.Proofs.Json.Text
import PgRole.Proofs.Keyed
import PgRole.Proofs.Text.Span

/-!
# Named values read from pairs

Pairs are read if each has a key, which ends at its first equals sign, and no key is given twice.
The table then has under each key the value of what follows, so that the order of the pairs does not
matter. Otherwise the error is that of the first pair at fault (`read_exact`).

Reading adds one pair after another: `addAll` is a fold of `addOne`, and what a pair is blamed for
depends on the keys before it only (`addOne_eq_error_iff`).
-/

namespace PgRole

namespace Pairs

/-! ## Pairs -/

/-- A pair is a key, an equals sign, and what follows; the key has no equals sign. -/
def IsPair (pair key raw : String) : Prop :=
  pair.toList = key.toList ++ '=' :: raw.toList ∧ '=' ∉ key.toList

/-- A text stands for the value that it is as a JSON document, or for itself if it is none. -/
def StandsFor (raw : String) (j : Json) : Prop :=
  Json.ofText? raw = some j ∨ Json.ofText? raw = none ∧ j = .str raw

instance (pair key raw : String) : Decidable (IsPair pair key raw) :=
  inferInstanceAs (Decidable (_ ∧ _))

theorem standsFor_iff {raw : String} {j : Json} : StandsFor raw j ↔ value raw = j := by
  unfold StandsFor value
  cases Json.ofText? raw with
  | none => simp [eq_comm]
  | some j' => simp

/-- The text of a value stands for this value, if it is not nested too deep and its numbers are read
back. -/
theorem standsFor_text {j : Json} (h : j.Nested Json.Document.maxDepth)
    (hn : ∀ n ∈ j.numbers, n.readsBack) : StandsFor j.text j := .inl (Json.ofText?_text h hn)

/-- Each pair has a key, and no key is given twice. -/
structure Distinct (pairs : List String) : Prop where
  keyed : ∀ pair ∈ pairs, ∃ key raw, IsPair pair key raw ∧ key ≠ ""
  apart : pairs.Pairwise fun a b => ∀ key raw raw', IsPair a key raw → ¬ IsPair b key raw'

/-- What a pair behind others is blamed for. -/
inductive Blames (before : List String) (pair : String) : Fault → Prop where
  | noEquals (h : '=' ∉ pair.toList) : Blames before pair (.noEquals pair)
  | emptyKey {raw : String} (h : IsPair pair "" raw) : Blames before pair (.emptyKey pair)
  | repeated {key raw earlier raw' : String} (h : IsPair pair key raw) (hne : key ≠ "")
    (hearlier : earlier ∈ before) (h' : IsPair earlier key raw') :
    Blames before pair (.repeated key)

theorem IsPair.takeWhile {pair key raw : String} (h : IsPair pair key raw) :
    pair.toList.takeWhile (· ≠ '=') = key.toList := by
  rw [h.1]
  refine Text.takeWhile_run (fun c hc => ?_) (by simp)
  simp only [ne_eq, decide_not, Bool.not_eq_true', decide_eq_false_iff_not]
  rintro rfl
  exact h.2 hc

theorem IsPair.dropWhile {pair key raw : String} (h : IsPair pair key raw) :
    pair.toList.dropWhile (· ≠ '=') = '=' :: raw.toList := by
  rw [h.1]
  refine Text.dropWhile_run (fun c hc => ?_) (by simp)
  simp only [ne_eq, decide_not, Bool.not_eq_true', decide_eq_false_iff_not]
  rintro rfl
  exact h.2 hc

/-- A pair has one key and one value: the key ends at the first equals sign. -/
theorem IsPair.unique {pair key raw key' raw' : String} (h : IsPair pair key raw)
    (h' : IsPair pair key' raw') : key = key' ∧ raw = raw' := by
  have hkey : key.toList = key'.toList := h.takeWhile.symm.trans h'.takeWhile
  have hraw : raw.toList = raw'.toList := by
    simpa using h.dropWhile.symm.trans h'.dropWhile
  exact ⟨String.toList_inj.1 hkey, String.toList_inj.1 hraw⟩

/-- A text with an equals sign is a pair. -/
theorem exists_isPair_iff {pair : String} :
    (∃ key raw, IsPair pair key raw) ↔ '=' ∈ pair.toList := by
  constructor
  · rintro ⟨key, raw, h⟩
    rw [h.1]
    simp
  · intro h
    obtain ⟨key, raw, hsplit, hkey⟩ := List.eq_append_cons_of_mem h
    exact ⟨String.ofList key, String.ofList raw, by simpa [IsPair] using ⟨hsplit, hkey⟩⟩

/-! ## One pair -/

theorem split_eq_noEquals {pair : String} (h : '=' ∉ pair.toList) :
    split pair = .error (.noEquals pair) := by
  have hall : ∀ c ∈ pair.toList, (decide (c ≠ '=')) = true := fun c hc => by
    rw [decide_eq_true_eq]
    rintro rfl
    exact h hc
  unfold split
  dsimp only
  rw [List.dropWhile_eq_nil_iff.2 hall]

/-- A pair is split into its key and the value of what follows, if the key is not empty. -/
theorem split_of_isPair {pair key raw : String} (h : IsPair pair key raw) :
    split pair = if key = "" then .error (.emptyKey pair) else .ok (key, value raw) := by
  unfold split
  dsimp only
  rw [h.dropWhile, h.takeWhile, String.ofList_toList]
  dsimp only
  rw [String.ofList_toList]
  by_cases hempty : key = ""
  · rw [if_pos hempty, if_pos (by simp [hempty])]
  · rw [if_neg hempty, if_neg (by simpa using hempty)]

/-! ## Pairs one after another -/

/-- Adds the value of a pair. -/
def addOne (params : Sql.Params) (pair : String) : Except Fault Sql.Params := do
  let (key, j) ← split pair
  if params.contains key then .error (.repeated key) else .ok (params.insert key j)

/-- Pairs are added one after the other. -/
theorem addAll_eq_foldlM (params : Sql.Params) (pairs : List String) :
    addAll params pairs = pairs.foldlM addOne params := by
  induction pairs generalizing params with
  | nil => rfl
  | cons pair pairs ih =>
    rw [addAll, List.foldlM_cons, addOne]
    cases split pair with
    | error f => rfl
    | ok e =>
      simp only [bind, Except.bind]
      split_ifs with h
      · rfl
      · exact ih _

theorem read_append (pairs pairs' : List String) :
    read (pairs ++ pairs') = (read pairs).bind fun params => pairs'.foldlM addOne params := by
  rw [read, read, addAll_eq_foldlM, addAll_eq_foldlM, List.foldlM_append]
  rfl

/-- One more pair is added to what those before it give. -/
theorem read_concat (pairs : List String) (pair : String) :
    read (pairs ++ [pair]) = (read pairs).bind fun params => addOne params pair := by
  rw [read_append]
  refine congrArg _ (funext fun params => ?_)
  rw [List.foldlM_cons]
  cases addOne params pair <;> rfl

/-- A table has under each key what the pair with that key gives. -/
def Holds (params : Sql.Params) (pairs : List String) : Prop :=
  ∀ key j, params.get? key = some j ↔
    ∃ pair ∈ pairs, ∃ raw, IsPair pair key raw ∧ StandsFor raw j

/-- A key stands in front of a pair that has another one, or none. -/
def NewKey (before : List String) (key : String) : Prop :=
  ∀ earlier ∈ before, ∀ raw, ¬ IsPair earlier key raw

variable {params params' : Sql.Params} {before pairs : List String} {pair : String} {f : Fault}

theorem Holds.contains_iff (h : Holds params before) {key : String} :
    params.contains key ↔ ∃ earlier ∈ before, ∃ raw, IsPair earlier key raw := by
  rw [Keyed.contains, Option.isSome_iff_exists]
  constructor
  · rintro ⟨j, hj⟩
    obtain ⟨earlier, hmem, raw, hraw, -⟩ := (h key j).1 hj
    exact ⟨earlier, hmem, raw, hraw⟩
  · rintro ⟨earlier, hmem, raw, hraw⟩
    exact ⟨value raw, (h key _).2 ⟨earlier, hmem, raw, hraw, standsFor_iff.2 rfl⟩⟩

theorem Holds.not_contains_iff (h : Holds params before) {key : String} :
    params.contains key = false ↔ NewKey before key := by
  rw [← Bool.not_eq_true, h.contains_iff]
  simp [NewKey]

/-- A table that holds some pairs holds one more with its key and value put in. -/
theorem Holds.insert (h : Holds params before) {key raw : String} (hpair : IsPair pair key raw)
    (hnew : NewKey before key) : Holds (params.insert key (value raw)) (before ++ [pair]) := by
  intro key' j
  rw [Keyed.get?_insert]
  -- a key holds what an earlier pair gave it, or what this one does
  have hconcat : (∃ p ∈ before ++ [pair], ∃ raw, IsPair p key' raw ∧ StandsFor raw j) ↔
      params.get? key' = some j ∨ ∃ raw, IsPair pair key' raw ∧ StandsFor raw j := by
    rw [h key' j]
    simp only [List.mem_append, List.mem_singleton, or_and_right, exists_or, exists_eq_left]
  rw [hconcat]
  by_cases hkey : key = key'
  · subst hkey
    have hnone : params.get? key = none := by
      have hcontains := h.not_contains_iff.2 hnew
      rw [Keyed.contains] at hcontains
      simpa using hcontains
    rw [if_pos rfl, hnone, Option.some.injEq, ← standsFor_iff]
    constructor
    · exact fun hj => .inr ⟨raw, hpair, hj⟩
    · rintro (hj | ⟨raw', hraw', hj⟩)
      · cases hj
      · rwa [(hpair.unique hraw').2]
  · rw [if_neg hkey]
    constructor
    · exact .inl
    · rintro (hj | ⟨raw', hraw', -⟩)
      · exact hj
      · exact absurd (hpair.unique hraw').1 hkey

/-- What comes of one pair depends on its key alone, and on the keys before it. -/
theorem addOne_of_isPair {key raw : String} (h : IsPair pair key raw) :
    addOne params pair = if key = "" then .error (.emptyKey pair)
      else if params.contains key then .error (.repeated key)
      else .ok (params.insert key (value raw)) := by
  rw [addOne, split_of_isPair h]
  split_ifs <;> simp_all [bind, Except.bind]

theorem addOne_eq_noEquals (h : '=' ∉ pair.toList) :
    addOne params pair = .error (.noEquals pair) := by
  rw [addOne, split_eq_noEquals h]
  rfl

/-- A pair is added if it has a key, not an empty one and none of those before. -/
theorem addOne_eq_ok_iff (h : Holds params before) : addOne params pair = .ok params' ↔
    ∃ key raw, IsPair pair key raw ∧ key ≠ "" ∧ NewKey before key ∧
      params' = params.insert key (value raw) := by
  constructor
  · intro hok
    by_cases hequals : '=' ∈ pair.toList
    · obtain ⟨key, raw, hpair⟩ := exists_isPair_iff.2 hequals
      rw [addOne_of_isPair hpair] at hok
      split_ifs at hok with hempty hcontains
      cases hok
      exact ⟨key, raw, hpair, hempty, h.not_contains_iff.1 (by simpa using hcontains), rfl⟩
    · rw [addOne_eq_noEquals hequals] at hok
      cases hok
  · rintro ⟨key, raw, hpair, hne, hnew, rfl⟩
    rw [addOne_of_isPair hpair, if_neg hne, if_neg (by simp [h.not_contains_iff.2 hnew])]

/-- Otherwise it is blamed for the first of these that it lacks. -/
theorem addOne_eq_error_iff (h : Holds params before) :
    addOne params pair = .error f ↔ Blames before pair f := by
  constructor
  · intro herror
    by_cases hequals : '=' ∈ pair.toList
    · obtain ⟨key, raw, hpair⟩ := exists_isPair_iff.2 hequals
      rw [addOne_of_isPair hpair] at herror
      split_ifs at herror with hempty hcontains
      · cases herror
        exact .emptyKey (hempty ▸ hpair)
      · cases herror
        obtain ⟨earlier, hmem, raw', hraw'⟩ := h.contains_iff.1 hcontains
        exact .repeated hpair hempty hmem hraw'
    · rw [addOne_eq_noEquals hequals] at herror
      cases herror
      exact .noEquals hequals
  · intro hblames
    cases hblames with
    | noEquals hequals => exact addOne_eq_noEquals hequals
    | emptyKey hpair => rw [addOne_of_isPair hpair, if_pos rfl]
    | repeated hpair hne hmem hearlier =>
      rw [addOne_of_isPair hpair, if_neg hne, if_pos (h.contains_iff.2 ⟨_, hmem, _, hearlier⟩)]

/-! ## All pairs -/

/-- One more pair is distinct from those before it if its key is new. -/
theorem distinct_concat_iff : Distinct (before ++ [pair]) ↔ Distinct before ∧
    ∃ key raw, IsPair pair key raw ∧ key ≠ "" ∧ NewKey before key := by
  constructor
  · rintro ⟨hkeyed, hapart⟩
    obtain ⟨hbefore, -, hpair⟩ := List.pairwise_append.1 hapart
    obtain ⟨key, raw, hsplit, hne⟩ := hkeyed pair (by simp)
    refine ⟨⟨fun p hp => hkeyed p (List.mem_append_left _ hp), hbefore⟩, key, raw, hsplit, hne, ?_⟩
    exact fun earlier hmem raw' h => hpair earlier hmem pair (by simp) key raw' raw h hsplit
  · rintro ⟨⟨hkeyed, hapart⟩, key, raw, hsplit, hne, hnew⟩
    constructor
    · intro p hp
      rcases List.mem_append.1 hp with hp | hp
      · exact hkeyed p hp
      · rw [List.mem_singleton.1 hp]
        exact ⟨key, raw, hsplit, hne⟩
    · refine List.pairwise_append.2 ⟨hapart, List.pairwise_singleton _ _, fun a ha b hb => ?_⟩
      rw [List.mem_singleton.1 hb]
      rintro key' raw' raw'' h h'
      obtain ⟨rfl, -⟩ := h'.unique hsplit
      exact hnew a ha raw' h

/-- A table that is read holds the pairs, and these are distinct. -/
theorem of_read_eq_ok (h : read pairs = .ok params) : Distinct pairs ∧ Holds params pairs := by
  induction pairs using List.reverseRecOn generalizing params with
  | nil =>
    cases h
    refine ⟨⟨by simp, .nil⟩, fun key j => ?_⟩
    have hnone : (∅ : Sql.Params).get? key = none := rfl
    simp [hnone]
  | append_singleton before pair ih =>
    rw [read_concat] at h
    obtain ⟨params', hbefore, hpair⟩ := bind_eq_ok_iff.1 h
    obtain ⟨hdistinct, hholds⟩ := ih hbefore
    obtain ⟨key, raw, hsplit, hne, hnew, rfl⟩ := (addOne_eq_ok_iff hholds).1 hpair
    exact ⟨distinct_concat_iff.2 ⟨hdistinct, key, raw, hsplit, hne, hnew⟩,
      hholds.insert hsplit hnew⟩

/-- Distinct pairs are read. -/
theorem exists_read_of_distinct (h : Distinct pairs) : ∃ params, read pairs = .ok params := by
  induction pairs using List.reverseRecOn with
  | nil => exact ⟨∅, rfl⟩
  | append_singleton before pair ih =>
    obtain ⟨hbefore, key, raw, hsplit, hne, hnew⟩ := distinct_concat_iff.1 h
    obtain ⟨params, hparams⟩ := ih hbefore
    refine ⟨params.insert key (value raw), ?_⟩
    rw [read_concat, hparams]
    exact (addOne_eq_ok_iff (of_read_eq_ok hparams).2).2 ⟨key, raw, hsplit, hne, hnew, rfl⟩

theorem exists_read_iff : (∃ params, read pairs = .ok params) ↔ Distinct pairs :=
  ⟨fun ⟨_, h⟩ => (of_read_eq_ok h).1, exists_read_of_distinct⟩

/-- Pairs that are distinct are so in any order. -/
theorem Distinct.perm {pairs' : List String} (hperm : pairs.Perm pairs') (h : Distinct pairs) :
    Distinct pairs' where
  keyed pair hpair := h.keyed pair (hperm.mem_iff.2 hpair)
  apart := (hperm.pairwise_iff fun hab key raw raw' hb ha => hab key raw' raw ha hb).1 h.apart

/-- Pairs in another order give the same table, for it has the same values under the same keys. -/
theorem read_perm {pairs' : List String} (hperm : pairs.Perm pairs') (h : read pairs = .ok params) :
    read pairs' = .ok params := by
  obtain ⟨hdistinct, hholds⟩ := of_read_eq_ok h
  obtain ⟨params', h'⟩ := exists_read_of_distinct (hdistinct.perm hperm)
  obtain ⟨-, hholds'⟩ := of_read_eq_ok h'
  have hsame : params' = params := Keyed.ext_get? fun key => Option.ext fun j => by
    rw [hholds' key j, hholds key j]
    simp only [hperm.mem_iff]
  rw [h', hsame]

/-- Pairs are read up to the first that is to blame. -/
theorem read_eq_error_iff : read pairs = .error f ↔ ∃ before pair after,
    pairs = before ++ pair :: after ∧ Distinct before ∧ Blames before pair f := by
  constructor
  · intro h
    induction pairs using List.reverseRecOn with
    | nil => cases h
    | append_singleton before pair ih =>
      rw [read_concat] at h
      rcases bind_eq_error_iff.1 h with h | ⟨params, hbefore, hpair⟩
      · obtain ⟨before', pair', after, rfl, hdistinct, hblames⟩ := ih h
        exact ⟨before', pair', after ++ [pair], by simp, hdistinct, hblames⟩
      · obtain ⟨hdistinct, hholds⟩ := of_read_eq_ok hbefore
        exact ⟨before, pair, [], rfl, hdistinct, (addOne_eq_error_iff hholds).1 hpair⟩
  · rintro ⟨before, pair, after, rfl, hdistinct, hblames⟩
    obtain ⟨params, hparams⟩ := exists_read_of_distinct hdistinct
    have hpair := (addOne_eq_error_iff (of_read_eq_ok hparams).2).2 hblames
    rw [read_append, hparams]
    show (pair :: after).foldlM addOne params = _
    rw [List.foldlM_cons, hpair]
    rfl

/-- Pairs are distinct if none of them is to blame. -/
theorem distinct_iff_not_blames : Distinct pairs ↔
    ∀ before pair after f, pairs = before ++ pair :: after → ¬ Blames before pair f := by
  constructor
  · rintro h before pair after f rfl hblames
    have hbefore : Distinct before :=
      ⟨fun p hp => h.keyed p (by simp [hp]), (List.pairwise_append.1 h.apart).1⟩
    have herror := read_eq_error_iff.2 ⟨before, pair, after, rfl, hbefore, hblames⟩
    obtain ⟨params, hok⟩ := exists_read_of_distinct h
    rw [hok] at herror
    cases herror
  · intro h
    cases hread : read pairs with
    | ok params => exact (of_read_eq_ok hread).1
    | error f =>
      obtain ⟨before, pair, after, hpairs, -, hblames⟩ := read_eq_error_iff.1 hread
      exact absurd hblames (h before pair after f hpairs)

/-- Pairs are read exactly when each has a key, not empty, and no key is given twice. The table has
under each key the value of what follows it, as a JSON document or as a text. Any order of the pairs
gives the same table. The error is that of the first pair to blame. -/
theorem read_exact (pairs : List String) :
    ((∃ params, read pairs = .ok params) ↔
      (∀ pair ∈ pairs, ∃ key raw, IsPair pair key raw ∧ key ≠ "") ∧
        pairs.Pairwise fun a b => ∀ key raw raw', IsPair a key raw → ¬ IsPair b key raw') ∧
    (∀ params, read pairs = .ok params → ∀ key j, params.get? key = some j ↔
      ∃ pair ∈ pairs, ∃ raw, IsPair pair key raw ∧ StandsFor raw j) ∧
    (∀ pairs', pairs.Perm pairs' → ∀ params, read pairs = .ok params ↔ read pairs' = .ok params) ∧
    ∀ f, read pairs = .error f ↔ ∃ before pair after, pairs = before ++ pair :: after ∧
      (∀ b p a g, before = b ++ p :: a → ¬ Blames b p g) ∧ Blames before pair f := by
  refine ⟨exists_read_iff.trans ⟨fun h => ⟨h.keyed, h.apart⟩, fun h => ⟨h.1, h.2⟩⟩,
    fun params h => (of_read_eq_ok h).2,
    fun pairs' hperm params => ⟨read_perm hperm, read_perm hperm.symm⟩, fun f => ?_⟩
  simp only [read_eq_error_iff, distinct_iff_not_blames]

/-- The list of one and two. -/
def oneAndTwo : Json := .arr [.num (.int 1 (by decide)), .num (.int 2 (by decide))]

/-- What follows a key is read as JSON or else as a text, a key ends at the first of several equals
signs, either order gives the same table, and the first of two pairs at fault is blamed. -/
theorem read_exact_first_blamed :
    (∃ params, read ["n=[1,2]", "q=a=b"] = .ok params ∧ read ["q=a=b", "n=[1,2]"] = .ok params ∧
      params.get? "n" = some oneAndTwo ∧ params.get? "q" = some (.str "a=b")) ∧
    read ["n=1", "n=2", "=3"] = .error (.repeated "n") := by
  have hn : IsPair "n=[1,2]" "n" "[1,2]" := by decide
  have hq : IsPair "q=a=b" "q" "a=b" := by decide
  have htext : StandsFor "a=b" (.str "a=b") := .inr ⟨by decide +kernel, rfl⟩
  have hnested : oneAndTwo.Nested (126 + 1) := .arr <| by simp [Json.Nested.num]
  have hlist : StandsFor oneAndTwo.text oneAndTwo := standsFor_text hnested (by decide +kernel)
  have hwritten : oneAndTwo.text = "[1,2]" := by decide +kernel
  rw [hwritten] at hlist
  constructor
  · obtain ⟨hreads, htable, horder, -⟩ := read_exact ["n=[1,2]", "q=a=b"]
    have hkeyed : ∀ pair ∈ ["n=[1,2]", "q=a=b"], ∃ key raw, IsPair pair key raw ∧ key ≠ "" := by
      rintro pair hpair
      rcases List.mem_pair.1 hpair with rfl | rfl
      · exact ⟨_, _, hn, by decide⟩
      · exact ⟨_, _, hq, by decide⟩
    have hapart : ∀ key raw raw', IsPair "n=[1,2]" key raw → ¬ IsPair "q=a=b" key raw' :=
      fun key raw raw' h h' => absurd ((hn.unique h).1.trans (h'.unique hq).1) (by decide)
    obtain ⟨params, hparams⟩ := hreads.2 ⟨hkeyed, List.pairwise_pair.2 hapart⟩
    exact ⟨params, hparams, (horder _ (.swap _ _ _) params).1 hparams,
      (htable params hparams "n" _).2 ⟨_, by simp, _, hn, hlist⟩,
      (htable params hparams "q" _).2 ⟨_, by simp, _, hq, htext⟩⟩
  · obtain ⟨-, -, -, herror⟩ := read_exact ["n=1", "n=2", "=3"]
    have hfirst : IsPair "n=1" "n" "1" := by decide
    have hsecond : IsPair "n=2" "n" "2" := by decide
    refine (herror _).2 ⟨["n=1"], "n=2", ["=3"], rfl, ?_,
      .repeated hsecond (by decide) (List.mem_singleton.2 rfl) hfirst⟩
    -- in front of the second pair stands only the first, which nothing is wrong with
    intro b p a f hsplit hblames
    obtain ⟨rfl, rfl, rfl⟩ : b = [] ∧ p = "n=1" ∧ a = [] := by
      simpa [eq_comm, List.append_eq_singleton_iff] using hsplit
    cases hblames with
    | noEquals h => exact h (by decide)
    | emptyKey h => exact absurd (hfirst.unique h).1 (by decide)
    | repeated _ _ hearlier _ => cases hearlier

end Pairs

end PgRole
