import PgRole.Postgres.Cell
import PgRole.Postgres.Conversion
import PgRole.Proofs.Except

/-!
# Kinds of conversion errors

A value that does not fit its parameter is an error of the argument, and names the parameter; a cell
that cannot be read is one of the query.
-/

namespace PgRole.Postgres

/-- Values that do not convert are the fault of an argument. -/
theorem Param.kind_of_allFrom {k : Nat} {types : List SqlType} {args : List Json} {e : Error}
    (h : allFrom k types args = .error e) : e.kind = .invalidArgument := by
  induction args generalizing k types with
  | nil => cases h
  | cons j args ih =>
    rcases bind_eq_error_iff.1 h with h | ⟨p, -, h⟩
    · obtain ⟨f, -, rfl⟩ := mapError_eq_error_iff.1 h
      rfl
    · rcases bind_eq_error_iff.1 h with h | ⟨ps, -, h⟩
      · exact ih h
      · cases h

theorem Param.kind_of_all {types : List SqlType} {args : List Json} {e : Error}
    (h : all types args = .error e) : e.kind = .invalidArgument := kind_of_allFrom h

/-- Where values do not convert, the error names the first that does not. -/
theorem Param.first_of_allFrom {k : Nat} {types : List SqlType} {args : List Json} {e : Error}
    (h : allFrom k types args = .error e) :
    ∃ i j f, args[i]? = some j ∧ ofJson types[i]? j = .error f ∧ e = error (k + i) f ∧
      ∀ m < i, ∀ j, args[m]? = some j → ∃ p, ofJson types[m]? j = .ok p := by
  -- the arguments are counted from `k`, and the types lose their first along with them
  induction args generalizing k types with
  | nil => cases h
  | cons j args ih =>
    rcases bind_eq_error_iff.1 h with h | ⟨p, hp, h⟩
    · obtain ⟨f, hf, rfl⟩ := mapError_eq_error_iff.1 h
      refine ⟨0, j, f, rfl, ?_, rfl, by simp⟩
      rw [← List.head?_eq_getElem?, hf]
    · rcases bind_eq_error_iff.1 h with h | ⟨ps, -, h⟩
      · obtain ⟨i, j', f, hj, hf, rfl, hbefore⟩ := ih h
        refine ⟨i + 1, j', f, hj, ?_, ?_, ?_⟩
        · rw [← List.getElem?_tail, hf]
        · rw [Nat.add_right_comm, Nat.add_assoc]
        · intro m hm j'' hj''
          cases m with
          | zero =>
            cases hj''
            refine ⟨p, ?_⟩
            rw [← List.head?_eq_getElem?, mapError_eq_ok_iff.1 hp]
          | succ m =>
            rw [← List.getElem?_tail]
            exact hbefore m (by omega) j'' hj''
      · cases h

namespace Row

/-- A row that does not show is the fault of the query. -/
theorem kind_of_values {columns : List Column} {row : Row} {e : Error}
    (h : values columns row = .error (.error e)) : e.kind = .query := by
  induction columns generalizing row with
  | nil => cases h
  | cons c columns ih =>
    rcases bind_eq_error_iff.1 h with h | ⟨j, -, h⟩
    · obtain ⟨f, -, hf⟩ := mapError_eq_error_iff.1 h
      cases f with
      | panic => cases hf
      | error f =>
        cases hf
        rfl
    · rcases bind_eq_error_iff.1 h with h | ⟨js, -, h⟩
      · exact ih h
      · cases h

theorem kind_of_record {columns : List Column} {row : Row} {e : Error}
    (h : record columns row = .error (.error e)) : e.kind = .query := by
  rcases bind_eq_error_iff.1 h with h | ⟨vs, -, h⟩
  · exact kind_of_values h
  · cases h

theorem kind_of_rowSet {columns : List Column} {rows : List Row} {e : Error}
    (h : rowSet columns rows = .error (.error e)) : e.kind = .query := by
  rcases bind_eq_error_iff.1 h with h | ⟨vs, -, h⟩
  · obtain ⟨row, -, h⟩ := exists_of_mapM_eq_error h
    exact kind_of_values h
  · cases h

end Row

end PgRole.Postgres
