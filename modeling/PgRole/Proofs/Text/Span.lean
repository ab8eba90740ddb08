import Mathlib.Data.List.TakeWhile
import PgRole.Text.Blank

/-!
# Runs of characters

A run of characters of one kind, up to the first character that is not of it; and white space as
such a run.
-/

namespace PgRole.Text

variable {p : Char → Bool} {run rest cs : List Char}

/-- A run of characters with a property is what is taken while they have it. -/
theorem takeWhile_run (hrun : ∀ c ∈ run, p c) (hrest : ∀ c ∈ rest.head?, p c = false) :
    (run ++ rest).takeWhile p = run := by
  rw [List.takeWhile_append_of_pos hrun]
  cases rest with
  | nil => simp
  | cons c rest => simp [hrest c rfl]

theorem dropWhile_run (hrun : ∀ c ∈ run, p c) (hrest : ∀ c ∈ rest.head?, p c = false) :
    (run ++ rest).dropWhile p = rest := by
  rw [List.dropWhile_append_of_pos hrun]
  cases rest with
  | nil => simp
  | cons c rest => simp [hrest c rfl]

/-- White space in front is left out, and nothing else. -/
theorem trimStart_eq_iff (hrest : ∀ c ∈ rest.head?, isBlank c = false) :
    trimStart cs = rest ↔ ∃ blanks, (∀ c ∈ blanks, isBlank c) ∧ cs = blanks ++ rest := by
  constructor
  · rintro rfl
    refine ⟨cs.takeWhile isBlank, fun c hc => List.mem_takeWhile_imp hc, ?_⟩
    exact List.takeWhile_append_dropWhile.symm
  · rintro ⟨blanks, hblanks, rfl⟩
    exact dropWhile_run hblanks hrest

/-- A text between characters that are not white space is left as it is. -/
theorem trimEnd_trimStart {front middle back : List Char} (hfront : front ≠ [])
    (hback : back ≠ []) (hf : ∀ c ∈ front, isBlank c = false)
    (hb : ∀ c ∈ back, isBlank c = false) :
    trimEnd (trimStart (front ++ middle ++ back)) = front ++ middle ++ back := by
  have hstart : trimStart (front ++ middle ++ back) = front ++ middle ++ back := by
    apply trimStart_eq_self
    cases front with
    | nil => exact absurd rfl hfront
    | cons c front =>
      rintro _ ⟨⟩
      exact hf c List.mem_cons_self
  have hend : trimStart (front ++ middle ++ back).reverse = (front ++ middle ++ back).reverse := by
    apply trimStart_eq_self
    rw [List.reverse_append]
    have hmem : ∀ c ∈ back.reverse, isBlank c = false := fun c hc => hb c (List.mem_reverse.1 hc)
    cases hrev : back.reverse with
    | nil => exact absurd (List.reverse_eq_nil_iff.1 hrev) hback
    | cons c back =>
      rintro _ ⟨⟩
      exact hmem c (by simp [hrev])
  rw [hstart, trimEnd, ← trimStart, hend, List.reverse_reverse]

/-- Characters that are not white space are left as they are. -/
theorem trimEnd_trimStart_eq_self (h : ∀ c ∈ cs, isBlank c = false) :
    trimEnd (trimStart cs) = cs := by
  have hstart : trimStart cs = cs := trimStart_eq_self fun c hc => h c (List.mem_of_mem_head? hc)
  have hend : trimStart cs.reverse = cs.reverse :=
    trimStart_eq_self fun c hc => h c (List.mem_reverse.1 (List.mem_of_mem_head? hc))
  rw [hstart, trimEnd, ← trimStart, hend, List.reverse_reverse]

/-- A text without white space is what is left iff the rest is white space on either side of it. -/
theorem trim_eq_iff {s : String} (hne : cs ≠ []) (h : ∀ c ∈ cs, isBlank c = false) :
    (trim s).toList = cs ↔ ∃ before after, (∀ c ∈ before, isBlank c) ∧ (∀ c ∈ after, isBlank c) ∧
      s.toList = before ++ cs ++ after := by
  rw [trim, String.toList_ofList]
  constructor
  · intro htrim
    refine ⟨s.toList.takeWhile isBlank,
      ((trimStart s.toList).reverse.takeWhile isBlank).reverse, fun c hc => ?_, fun c hc => ?_, ?_⟩
    · exact List.mem_takeWhile_imp hc
    · exact List.mem_takeWhile_imp (List.mem_reverse.1 hc)
    · have hend : trimEnd (trimStart s.toList) ++
          ((trimStart s.toList).reverse.takeWhile isBlank).reverse = trimStart s.toList := by
        rw [trimEnd, ← List.reverse_append, List.takeWhile_append_dropWhile, List.reverse_reverse]
      rw [List.append_assoc, ← htrim, hend]
      exact List.takeWhile_append_dropWhile.symm
  · rintro ⟨before, after, hbefore, hafter, hs⟩
    have hstart : trimStart s.toList = cs ++ after := by
      rw [hs, List.append_assoc]
      refine dropWhile_run hbefore fun c hc => h c ?_
      obtain ⟨d, r, rfl⟩ := List.exists_cons_of_ne_nil hne
      exact List.mem_of_mem_head? hc
    rw [hstart, trimEnd, List.reverse_append, dropWhile_run (fun c hc => hafter c
      (List.mem_reverse.1 hc)) (fun c hc => h c (List.mem_reverse.1 (List.mem_of_mem_head? hc))),
      List.reverse_reverse]

/-- A text without white space is left as it is. -/
theorem trim_eq_self {s : String} (h : ∀ c ∈ s.toList, isBlank c = false) : trim s = s := by
  rw [trim, trimEnd_trimStart_eq_self h, String.ofList_toList]

end PgRole.Text
