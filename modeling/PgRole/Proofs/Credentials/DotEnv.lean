import Mathlib.Tactic.SplitIfs
import PgRole.Credentials.DotEnv

/-!
# Completing an environment again

Whether a line of the file of variables can be read, and which variable it is for, depends on the
line alone: what is set shows in values only. So reading the file again, in an environment that it
has completed, comes as far as before and finds every variable set (`completedBy_completedBy`).
-/

namespace PgRole.Credentials

namespace DotEnv

variable (look look' : Lookup)

/-! ## Values -/

/-- Two values are read alike, but for the characters so far. -/
structure ValueState.Alike (s s' : ValueState) : Prop where
  mode : s.mode = s'.mode
  weak : s.weak = s'.weak
  name : s.name = s'.name

/-- A character is taken alike in states that are alike, or refused in both. -/
theorem ValueState.Alike.step {s s' : ValueState} (h : s.Alike s') (c : Char) :
    s.step look c = none ∧ s'.step look' c = none ∨
      ∃ t t', s.step look c = some t ∧ s'.step look' c = some t' ∧ t.Alike t' := by
  obtain ⟨mode, weak, out, name⟩ := s
  obtain ⟨mode', weak', out', name'⟩ := s'
  obtain ⟨rfl, rfl, rfl⟩ := h
  cases mode <;> simp only [ValueState.step]
  all_goals split_ifs <;> first
    | exact .inl ⟨rfl, rfl⟩
    | exact .inr ⟨_, _, rfl, rfl, rfl, rfl, rfl⟩

theorem ValueState.Alike.isSome_finish {s s' : ValueState} (h : s.Alike s') :
    (s.finish look).isSome = (s'.finish look').isSome := by
  simp only [ValueState.finish, h.mode, h.weak]
  split_ifs <;> rfl

/-- What variables hold does not decide whether a value can be read. -/
theorem isSome_readValue {s s' : ValueState} (h : s.Alike s') (cs : List Char) :
    (readValue look s cs).isSome = (readValue look' s' cs).isSome := by
  induction cs generalizing s s' with
  | nil => exact h.isSome_finish look look'
  | cons c r ih =>
    rw [readValue, readValue, h.mode]
    split_ifs with hdone
    · exact h.isSome_finish look look'
    · rcases h.step look look' c with ⟨hs, hs'⟩ | ⟨t, t', hs, hs', ht⟩
      · rw [hs, hs']
        rfl
      · rw [hs, hs']
        exact ih ht

/-! ## Lines -/

/-- The variable that a line is for, if the line can be read and is for one. -/
def readTargetName? (cs : List Char) : Option (Option String) :=
  (readLine? (fun _ => "") cs).map (Option.map Prod.fst)

/-- What variables hold does not decide whether a line can be read and which variable it is for. -/
theorem map_readLine? (cs : List Char) :
    (readLine? look cs).map (Option.map Prod.fst) = readTargetName? cs := by
  rw [readTargetName?]
  unfold readLine?
  generalize Text.trimStart (Text.trimEnd cs) = cs
  split
  · rfl
  · rfl
  · cases readTarget? cs with
    | none => rfl
    | some target =>
      obtain ⟨key, r⟩ := target
      simp only [Option.bind_eq_bind, Option.bind_some]
      split_ifs
      · rfl
      · have hstart : ValueState.Alike ⟨.plain, false, [], []⟩ ⟨.plain, false, [], []⟩ :=
          ⟨rfl, rfl, rfl⟩
        have hvalue := isSome_readValue look (fun _ => "") hstart (Text.trimStart r)
        cases h : readValue look ⟨.plain, false, [], []⟩ (Text.trimStart r) with
        | none =>
          rw [h, Option.isSome_none, eq_comm, Option.isSome_eq_false_iff,
            Option.isNone_iff_eq_none] at hvalue
          rw [hvalue]
        | some v =>
          rw [h, Option.isSome_some, eq_comm, Option.isSome_iff_exists] at hvalue
          obtain ⟨v', hv'⟩ := hvalue
          rw [hv']
          rfl

/-- The variables that lines are for, up to the first line that cannot be read. -/
def targetNames : List (Option (List Char)) → List String
  | [] => []
  | none :: _ => []
  | some l :: ls =>
    match readTargetName? l with
    | none => []
    | some none => targetNames ls
    | some (some name) => name :: targetNames ls

/-- How the first of some lines counts, in cases: it cannot be read, it is for nothing, or it is for
a variable. -/
theorem load_cons (env : Environment) (given : Keyed String) (l : List Char)
    (ls : List (Option (List Char))) :
    readTargetName? l = none ∧ load env given (some l :: ls) = env ∨
    readTargetName? l = some none ∧ load env given (some l :: ls) = load env given ls ∨
    ∃ name value, readTargetName? l = some (some name) ∧ load env given (some l :: ls) =
      load (if env.contains name then env else env.insert name value) (given.insert name value)
        ls := by
  have hname := map_readLine? (fun n => ((env.get? n).or (given.get? n)).getD "") l
  rw [load]
  cases hline : readLine? (fun n => ((env.get? n).or (given.get? n)).getD "") l with
  | none =>
    rw [hline] at hname
    exact .inl ⟨hname.symm, rfl⟩
  | some target =>
    rw [hline] at hname
    cases target with
    | none => exact .inr (.inl ⟨hname.symm, rfl⟩)
    | some assignment => exact .inr (.inr ⟨assignment.1, assignment.2, hname.symm, rfl⟩)

/-- Nothing changes where all variables of the lines are set. -/
theorem load_of_contains {env : Environment} (given : Keyed String)
    {ls : List (Option (List Char))} (h : ∀ n ∈ targetNames ls, env.contains n) :
    load env given ls = env := by
  induction ls generalizing given with
  | nil => rfl
  | cons l ls ih =>
    cases l with
    | none => rfl
    | some l =>
      rw [targetNames] at h
      rcases load_cons env given l ls with ⟨-, hload⟩ | ⟨hl, hload⟩ | ⟨name, value, hl, hload⟩
      · exact hload
      · rw [hl] at h
        rw [hload, ih given h]
      · rw [hl] at h
        rw [hload, if_pos (h name List.mem_cons_self)]
        exact ih _ fun n hn => h n (List.mem_cons_of_mem name hn)

theorem contains_insert {env : Environment} {name n value : String} :
    (env.insert name value).contains n ↔ name = n ∨ env.contains n := by
  rw [Keyed.contains, Keyed.get?_insert]
  by_cases h : name = n <;> simp [h, Keyed.contains]

/-- Afterwards the variables are set that were set before, and those of the lines. -/
theorem contains_load {env : Environment} {given : Keyed String} {ls : List (Option (List Char))}
    {n : String} (h : env.contains n ∨ n ∈ targetNames ls) : (load env given ls).contains n := by
  induction ls generalizing env given with
  | nil => simpa [load, targetNames] using h
  | cons l ls ih =>
    cases l with
    | none => simpa [load, targetNames] using h
    | some l =>
      rw [targetNames] at h
      -- a line ends the file, sets nothing, or sets a variable that was not set before
      rcases load_cons env given l ls with ⟨hl, hload⟩ | ⟨hl, hload⟩ | ⟨name, value, hl, hload⟩
      · rw [hl] at h
        rw [hload]
        simpa using h
      · rw [hl] at h
        rw [hload]
        exact ih h
      · rw [hl] at h
        rw [hload]
        apply ih
        have hset : env.contains n ∨ name = n →
            (if env.contains name then env else env.insert name value).contains n := by
          intro hn
          by_cases hc : env.contains name
          · rw [if_pos hc]
            rcases hn with hn | rfl
            · exact hn
            · exact hc
          · rw [if_neg hc, contains_insert]
            exact hn.symm
        rcases h with h | h
        · exact .inl (hset (.inl h))
        · rcases List.mem_cons.1 h with rfl | h
          · exact .inl (hset (.inr rfl))
          · exact .inr h

end DotEnv

/-- A file completes an environment once: read again, it changes nothing. -/
theorem Environment.completedBy_completedBy (file : Option String) (env : Environment) :
    Environment.completedBy file (env.completedBy file) = env.completedBy file := by
  cases file with
  | none => rfl
  | some s => exact DotEnv.load_of_contains _ fun n hn => DotEnv.contains_load (.inr hn)

end PgRole.Credentials
