import Mathlib.Data.List.Forall2

/-!
# Success and failure of composed results

What a value or an error of a result says of its parts. `SameUpTo R` relates results that are the
same error, or values related by `R`; it has one rule a construct, so that a function is followed
through two runs at once.
-/

namespace PgRole

variable {ε α β : Type}

/-- Two steps give a value just if the first does and the second gives it from there. -/
theorem bind_eq_ok_iff {x : Except ε α} {f : α → Except ε β} {b : β} :
    x >>= f = .ok b ↔ ∃ a, x = .ok a ∧ f a = .ok b := by
  cases x with
  | error e =>
    constructor
    · intro h; cases h
    · rintro ⟨a, h, -⟩; cases h
  | ok a => exact ⟨fun h => ⟨a, rfl, h⟩, fun ⟨_, ha, h⟩ => by cases ha; exact h⟩

/-- A list of results has values just if each of them has its value. -/
theorem mapM_eq_ok_iff {f : α → Except ε β} {l : List α} {m : List β} :
    l.mapM f = .ok m ↔ List.Forall₂ (fun a b => f a = .ok b) l m := by
  induction l generalizing m with
  | nil =>
    rw [List.mapM_nil, List.forall₂_nil_left_iff]
    exact ⟨fun h => by cases h; rfl, fun h => by rw [h]; rfl⟩
  | cons a l ih =>
    rw [List.mapM_cons, List.forall₂_cons_left_iff, bind_eq_ok_iff]
    constructor
    · rintro ⟨b, hb, h⟩
      obtain ⟨bs, hbs, h⟩ := bind_eq_ok_iff.1 h
      cases h
      exact ⟨b, bs, hb, ih.1 hbs, rfl⟩
    · rintro ⟨b, bs, hb, hbs, rfl⟩
      exact ⟨b, hb, bind_eq_ok_iff.2 ⟨bs, ih.2 hbs, rfl⟩⟩

/-- Two steps fail with the first, or with the second from the value of the first. -/
theorem bind_eq_error_iff {x : Except ε α} {f : α → Except ε β} {e : ε} :
    (x >>= f) = .error e ↔ x = .error e ∨ ∃ a, x = .ok a ∧ f a = .error e := by
  cases x with
  | error e' => simp [bind, Except.bind]
  | ok a => simp [bind, Except.bind]

theorem mapError_eq_error_iff {ε' : Type} {x : Except ε α} {f : ε → ε'} {e : ε'} :
    x.mapError f = .error e ↔ ∃ e', x = .error e' ∧ f e' = e := by
  cases x with
  | error e' => simp [Except.mapError]
  | ok a => simp [Except.mapError]

theorem mapError_eq_ok_iff {ε' : Type} {x : Except ε α} {f : ε → ε'} {a : α} :
    x.mapError f = .ok a ↔ x = .ok a := by
  cases x with
  | error e => simp [Except.mapError]
  | ok a' => simp [Except.mapError]

theorem map_eq_error_iff {x : Except ε α} {f : α → β} {e : ε} :
    x.map f = .error e ↔ x = .error e := by
  cases x <;> simp [Except.map]

theorem map_eq_ok_iff {x : Except ε α} {f : α → β} {b : β} :
    x.map f = .ok b ↔ ∃ a, x = .ok a ∧ f a = b := by
  cases x <;> simp [Except.map]

theorem toOption_eq_some_iff {x : Except ε α} {a : α} : x.toOption = some a ↔ x = .ok a := by
  cases x <;> simp [Except.toOption]

/-- A list of results fails with an error of one of them. -/
theorem exists_of_mapM_eq_error {f : α → Except ε β} {l : List α} {e : ε}
    (h : l.mapM f = .error e) : ∃ a ∈ l, f a = .error e := by
  induction l with
  | nil => cases h
  | cons a l ih =>
    rw [List.mapM_cons] at h
    rcases bind_eq_error_iff.1 h with h | ⟨b, -, h⟩
    · exact ⟨a, List.mem_cons_self, h⟩
    · rcases bind_eq_error_iff.1 h with h | ⟨bs, -, h⟩
      · obtain ⟨a', ha', h⟩ := ih h
        exact ⟨a', List.mem_cons_of_mem a ha', h⟩
      · cases h

/-- A list of results fails with the error of the first that fails. -/
theorem mapM_eq_error_iff {f : α → Except ε β} {l : List α} {e : ε} :
    l.mapM f = .error e ↔ ∃ before a after, l = before ++ a :: after ∧
      (∀ x ∈ before, ∃ b, f x = .ok b) ∧ f a = .error e := by
  induction l with
  | nil => simp [pure, Except.pure]
  | cons a l ih =>
    rw [List.mapM_cons, bind_eq_error_iff]
    constructor
    · rintro (ha | ⟨b, hb, hl⟩)
      · exact ⟨[], a, l, rfl, by simp, ha⟩
      · rcases bind_eq_error_iff.1 hl with hl | ⟨bs, -, hl⟩
        · obtain ⟨before, c, after, rfl, hbefore, hc⟩ := ih.1 hl
          exact ⟨a :: before, c, after, rfl, List.forall_mem_cons.2 ⟨⟨b, hb⟩, hbefore⟩, hc⟩
        · cases hl
    · rintro ⟨before, c, after, hl, hbefore, hc⟩
      cases before with
      | nil =>
        obtain ⟨rfl, rfl⟩ := List.cons.inj hl
        exact .inl hc
      | cons x before =>
        obtain ⟨rfl, rfl⟩ := List.cons.inj hl
        obtain ⟨⟨b, hb⟩, hbefore⟩ := List.forall_mem_cons.1 hbefore
        exact .inr ⟨b, hb, bind_eq_error_iff.2 (.inl (ih.2 ⟨before, c, after, rfl, hbefore, hc⟩))⟩

/-- A list of results around one that has a value. -/
theorem mapM_append_cons_eq_ok_iff {f : α → Except ε β} {before after : List α} {a : α} {b : β}
    (h : f a = .ok b) {l : List β} : (before ++ a :: after).mapM f = .ok l ↔
      ∃ m n, before.mapM f = .ok m ∧ after.mapM f = .ok n ∧ l = m ++ b :: n := by
  rw [List.mapM_append, List.mapM_cons, h]
  cases before.mapM f <;> cases after.mapM f <;>
    simp [bind, Except.bind, pure, Except.pure, eq_comm]

theorem forM_congr {f g : α → Except ε Unit} {l : List α} (h : ∀ a ∈ l, f a = g a) :
    l.forM f = l.forM g := by
  induction l with
  | nil => rfl
  | cons a l ih =>
    obtain ⟨ha, h⟩ := List.forall_mem_cons.1 h
    rw [List.forM, List.forM, ha, ih h]

/-- A list of checks passes if each of them does. -/
theorem forM_eq_ok_iff {f : α → Except ε Unit} {l : List α} :
    l.forM f = .ok () ↔ ∀ a ∈ l, f a = .ok () := by
  induction l with
  | nil => simp [pure, Except.pure]
  | cons a l ih =>
    rw [List.forM, bind_eq_ok_iff, List.forall_mem_cons, ← ih]
    exact ⟨fun ⟨_, ha, hl⟩ => ⟨ha, hl⟩, fun ⟨ha, hl⟩ => ⟨⟨⟩, ha, hl⟩⟩

/-- A list of checks fails with the error of the first that fails. -/
theorem forM_eq_error_iff {f : α → Except ε Unit} {l : List α} {e : ε} :
    l.forM f = .error e ↔ ∃ before a after, l = before ++ a :: after ∧
      (∀ x ∈ before, f x = .ok ()) ∧ f a = .error e := by
  induction l with
  | nil => simp [pure, Except.pure]
  | cons a l ih =>
    rw [List.forM, bind_eq_error_iff]
    constructor
    · rintro (ha | ⟨_, ha, hl⟩)
      · exact ⟨[], a, l, rfl, by simp, ha⟩
      · obtain ⟨before, b, after, rfl, hbefore, hb⟩ := ih.1 hl
        exact ⟨a :: before, b, after, rfl, List.forall_mem_cons.2 ⟨ha, hbefore⟩, hb⟩
    · rintro ⟨before, b, after, hl, hbefore, hb⟩
      cases before with
      | nil =>
        obtain ⟨rfl, rfl⟩ := List.cons.inj hl
        exact .inl hb
      | cons x before =>
        obtain ⟨rfl, rfl⟩ := List.cons.inj hl
        obtain ⟨hx, hbefore⟩ := List.forall_mem_cons.1 hbefore
        exact .inr ⟨⟨⟩, hx, ih.2 ⟨before, b, after, rfl, hbefore, hb⟩⟩

/-! ## Whether there is a value -/

theorem isOk_iff {x : Except ε α} : x.isOk ↔ ∃ a, x = .ok a := by
  cases x <;> simp [Except.isOk, Except.toBool]

theorem isOk_map_iff {x : Except ε α} {f : α → β} : (x.map f).isOk ↔ x.isOk := by
  cases x <;> rfl

@[simp] theorem isOk_pure (a : α) : (pure a : Except ε α).isOk = true := rfl

@[simp] theorem isOk_throw (e : ε) : (throw e : Except ε α).isOk = false := rfl

@[simp] theorem isOk_throw_bind (e : ε) (f : α → Except ε β) : (throw e >>= f).isOk = false := rfl

/-- A step and what follows it, if whether that gives a value does not depend on the step's. -/
theorem isOk_bind_iff {x : Except ε α} {f : α → Except ε β} {p : Prop}
    (h : ∀ a, x = .ok a → ((f a).isOk ↔ p)) : (x >>= f).isOk ↔ x.isOk ∧ p := by
  cases x with
  | error e => simp [bind, Except.bind, Except.isOk, Except.toBool]
  | ok a => simpa [bind, Except.bind, Except.isOk, Except.toBool] using h a rfl

/-- A step, if what follows it always gives a value. -/
theorem isOk_bind_of_forall {x : Except ε α} {f : α → Except ε β} (h : ∀ a, (f a).isOk) :
    (x >>= f).isOk ↔ x.isOk := by
  simpa using isOk_bind_iff (p := True) fun a _ => by simp [h a]

theorem isOk_mapM_iff {f : α → Except ε β} {l : List α} :
    (l.mapM f).isOk ↔ ∀ a ∈ l, (f a).isOk := by
  induction l with
  | nil => simp
  | cons a l ih =>
    rw [List.mapM_cons, List.forall_mem_cons, ← ih]
    exact isOk_bind_iff fun b _ => isOk_bind_of_forall fun bs => rfl

/-! ## Two results at once -/

section SameUpTo

variable {γ δ : Type} {R : α → β → Prop} {S : γ → δ → Prop}

/-- Results that are the same error, or values that are related. -/
inductive SameUpTo (R : α → β → Prop) : Except ε α → Except ε β → Prop where
  | error (e : ε) : SameUpTo R (.error e) (.error e)
  | ok {a : α} {b : β} (h : R a b) : SameUpTo R (.ok a) (.ok b)

namespace SameUpTo

theorem of_eq {T : α → α → Prop} (hT : ∀ a, T a a) {x y : Except ε α} (h : x = y) :
    SameUpTo T x y := by
  subst h
  cases x with
  | error e => exact .error e
  | ok a => exact .ok (hT a)

theorem bind {x : Except ε α} {y : Except ε β} {f : α → Except ε γ} {g : β → Except ε δ}
    (h : SameUpTo R x y) (hf : ∀ a b, R a b → SameUpTo S (f a) (g b)) :
    SameUpTo S (x >>= f) (y >>= g) := by
  cases h with
  | error e => exact .error e
  | ok h => exact hf _ _ h

theorem mapM {f : α → Except ε γ} {g : β → Except ε δ} {l : List α} {m : List β}
    (h : List.Forall₂ R l m) (hf : ∀ a b, R a b → SameUpTo S (f a) (g b)) :
    SameUpTo (List.Forall₂ S) (l.mapM f) (m.mapM g) := by
  induction h with
  | nil => exact .ok .nil
  | cons hab _ ih =>
    rw [List.mapM_cons, List.mapM_cons]
    exact (hf _ _ hab).bind fun c d hcd => ih.bind fun cs ds hcds => .ok (.cons hcd hcds)

theorem map_eq {f : α → γ} {g : β → γ} {x : Except ε α} {y : Except ε β} (h : SameUpTo R x y)
    (hf : ∀ a b, R a b → f a = g b) : x.map f = y.map g := by
  cases h with
  | error e => rfl
  | ok h => exact congrArg _ (hf _ _ h)

end SameUpTo

end SameUpTo

end PgRole
