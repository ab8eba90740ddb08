/-!
# Attempts

What may give no value. There are two ways for it: an error, which the caller gets and can handle,
and a panic, of which no caller gets anything. They are kept apart throughout, for a call that
panics tells nothing, and leaves what it was about as it is.
-/

namespace PgRole

/-- How there is no value: with an error, or in a panic. -/
inductive Abort (ε : Type) where
  | error (e : ε)
  | panic
  deriving DecidableEq, Repr

/-- The same with another error. -/
def Abort.map {ε ε' : Type} (f : ε → ε') : Abort ε → Abort ε'
  | error e => .error (f e)
  | panic => .panic

/-- A value, or how there is none. -/
abbrev Attempt (ε α : Type) := Except (Abort ε) α

/-- A value of octets. One that is refused is refused without a reason. -/
abbrev Reading (α : Type) := Attempt Unit α

namespace Attempt

variable {ε α : Type}

/-- The value; without one there is a panic. -/
def orPanic (v : Option α) : Attempt ε α := v.elim (.error .panic) .ok

/-- The value, or else what is read is refused. -/
def orRefuse (v : Option α) : Reading α := v.elim (.error (.error ())) .ok

@[simp] theorem orPanic_eq_ok_iff {v : Option α} {a : α} :
    (orPanic v : Attempt ε α) = .ok a ↔ v = some a := by
  cases v <;> simp [orPanic]

@[simp] theorem orPanic_eq_panic_iff {v : Option α} :
    (orPanic v : Attempt ε α) = .error .panic ↔ v = none := by
  cases v <;> simp [orPanic]

@[simp] theorem orRefuse_eq_ok_iff {v : Option α} {a : α} : orRefuse v = .ok a ↔ v = some a := by
  cases v <;> simp [orRefuse]

@[simp] theorem orRefuse_ne_panic {v : Option α} : orRefuse v ≠ .error .panic := by
  cases v <;> simp [orRefuse]

end Attempt

end PgRole
