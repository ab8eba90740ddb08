import PgRole.Proofs.Json.Text

/-!
# Texts read in two parts

A text that is all tokens is read in the same way when more follows it, if it does not end with a
number (`Token.all?_append`). So a text may be cut where a value is due: what stands before leads to
a place, and what follows is read from there (`Document.Leads.resume?`). Behind a value in a list or
an object comes nothing that a number would go on with (`Document.endsNumber_of_resume?`).
-/

namespace PgRole.Json

/-- A string that is read up to its end is read so whatever stands behind it. -/
theorem readUnits_append {cs r : List Char} {units : List StringUnit}
    (h : readUnits cs = some (units, r)) (rest : List Char) :
    readUnits (cs ++ rest) = some (units, r ++ rest) := by
  -- by the escapes: none of them looks past what it takes
  fun_induction readUnits cs generalizing units r with
  | case1 cs =>
    cases h
    simp [readUnits]
  | case2 a b c d cs ih =>
    obtain ⟨n, hn, h⟩ := Option.bind_eq_some_iff.1 h
    obtain ⟨⟨units, r⟩, hread, h⟩ := Option.bind_eq_some_iff.1 h
    cases h
    show readUnits ('\\' :: 'u' :: a :: b :: c :: d :: (cs ++ rest)) = _
    rw [readUnits_coded hn, ih hread]
    rfl
  | case3 e cs _ ih =>
    obtain ⟨c, hc, h⟩ := Option.bind_eq_some_iff.1 h
    obtain ⟨⟨units, r⟩, hread, h⟩ := Option.bind_eq_some_iff.1 h
    cases h
    show readUnits ('\\' :: e :: (cs ++ rest)) = _
    rw [readUnits_short hc, ih hread]
    rfl
  | case4 => cases h
  | case5 => cases h
  | case6 c cs hquote _ hescape hslash hlow ih =>
    obtain ⟨⟨units, r⟩, hread, h⟩ := Option.bind_eq_some_iff.1 h
    cases h
    have hplain : c ≠ '\\' := fun hc => by
      cases cs with
      | nil => exact hslash hc rfl
      | cons e cs => exact hescape e cs hc rfl
    rw [List.cons_append, readUnits_plain (fun hc => hquote hc) hplain hlow, ih hread]
    rfl
  | case7 => cases h

namespace Token

variable {cs r rest : List Char} {t : Token} {ts : List Token}

/-- A token at the end of a text is a number or has an end of its own. -/
theorem next?_append (h : next? cs = some (t, r))
    (hrest : r = [] → ∀ l, t = .num l → EndsNumber rest) :
    next? (cs ++ rest) = some (t, r ++ rest) := by
  unfold next? at h
  split at h
  case h_10 =>
    obtain ⟨⟨units, r⟩, hunits, h⟩ := Option.map_eq_some_iff.1 h
    cases h
    rw [List.cons_append, next?, readUnits_append hunits]
    rfl
  case h_11 =>
    obtain ⟨⟨l, r⟩, hread, h⟩ := Option.map_eq_some_iff.1 h
    cases h
    exact next?_number hread fun hr => hrest hr l rfl
  all_goals
    cases h
    rfl

/-- A text that does not end with a number has the same tokens in front of more text. -/
theorem all?_append (h : all? cs = some ts) (hlast : ∀ l, ts.getLast? ≠ some (.num l))
    (rest : List Char) : all? (cs ++ rest) = (all? rest).map (ts ++ ·) := by
  fun_induction all? cs generalizing ts with
  | case1 =>
    cases h
    simp
  | case2 c cs hc ih =>
    rw [List.cons_append, all?, if_pos hc]
    exact ih h hlast
  | case3 c cs hc hnone => cases h
  | case4 c cs hc t r hnext ih =>
    obtain ⟨us, hus, rfl⟩ := Option.map_eq_some_iff.1 h
    -- a number at the end of the first text might go on in the second; no other token can
    have hnext' : next? (c :: (cs ++ rest)) = some (t, r ++ rest) := by
      refine next?_append hnext fun hr l ht => ?_
      subst hr ht
      rw [all?] at hus
      cases hus
      exact absurd rfl (hlast l)
    have hus' : ∀ l, us.getLast? ≠ some (.num l) := fun l hl => by
      cases us with
      | nil => cases hl
      | cons u us => exact hlast l hl
    rw [List.cons_append, all?_cons (by simpa using hc), hnext', Option.bind_some,
      ih hus hus', Option.map_map]
    rfl

end Token

/-- Characters are a JSON string of a text. -/
def IsString (cs : List Char) (s : String) : Prop := Token.next? cs = some (.str (some s), [])

theorem isString_stringText (s : String) : IsString (stringText s) s := by
  have hnext := next?_stringText s []
  rwa [List.append_nil] at hnext

namespace Document

/-- The place after tokens. -/
def Place.after? : List Token → Place → Option Place
  | [], p => some p
  | t :: ts, p => (p.step t).bind (after? ts)

/-- Tokens lead on from the place to which those before them led. -/
theorem run_append (ts us : List Token) (p : Place) :
    run (ts ++ us) p = (p.after? ts).bind (run us) := by
  induction ts generalizing p with
  | nil => rfl
  | cons t ts ih =>
    rw [List.cons_append, run, Place.after?]
    cases p.step t with
    | none => rfl
    | some q => exact ih q

/-- The tokens of a text lead from one place to another, and the last of them is no number, which
might go on behind the text. -/
def Leads (cs : List Char) (p q : Place) : Prop :=
  ∃ ts, Token.all? cs = some ts ∧ (∀ l, ts.getLast? ≠ some (.num l)) ∧ p.after? ts = some q

variable {cs rest : List Char} {p q : Place}

/-- Behind characters that lead to a place, reading goes on from there. -/
theorem Leads.resume? (h : Leads cs p q) (rest : List Char) :
    resume? (cs ++ rest) p = Document.resume? rest q := by
  obtain ⟨ts, hts, hlast, hafter⟩ := h
  unfold Document.resume?
  rw [Token.all?_append hts hlast]
  cases Token.all? rest with
  | none => rfl
  | some us => exact (run_append ts us p).trans (by rw [hafter]; rfl)

/-- A string is read as such where a value is due. -/
theorem resume?_string {v : List Char} {s : String} (hv : IsString v s) (outer : List Frame)
    (rest : List Char) :
    resume? (v ++ rest) (.value outer) = resume? rest (.done (.str (some s)) outer) := by
  have hnext : Token.next? (v ++ rest) = some (.str (some s), rest) :=
    Token.next?_append hv fun _ l hl => by cases hl
  cases v with
  | nil => cases hv
  | cons c v => exact resume?_token (isSpace_of_next? hv) hnext _

/-- A number is read as such where a value is due, if it does not go on. -/
theorem resume?_number {v : List Char} {l : Literal} (hv : Literal.read? v = some (l, []))
    (outer : List Frame) {rest : List Char} (hrest : EndsNumber rest) :
    resume? (v ++ rest) (.value outer) = resume? rest (.done (.num l) outer) := by
  have hnext := next?_number hv fun _ => hrest
  obtain ⟨c, v, rfl, -⟩ := Literal.exists_cons_of_read? hv
  exact resume?_token (isSpace_of_next? hnext) hnext _

/-- Behind the value of an item or a member no number goes on. -/
theorem endsNumber_of_resume? {d doc : Document} {f : Frame} {outer : List Frame}
    (h : resume? rest (.done d (f :: outer)) = some doc) : EndsNumber rest := by
  intro c hc
  obtain ⟨r, rfl⟩ : ∃ r, rest = c :: r := List.head?_eq_some_iff.1 hc
  by_contra hnumber
  have hmark : c ∉ marks := fun hmem => by
    obtain ⟨-, hdigit, hpoint, he, hE, -⟩ := of_mem_marks hmem
    exact hnumber ⟨hdigit, hpoint, he, hE⟩
  have hspace : isSpace c = false := by
    by_contra hspace
    simp only [isSpace, Bool.not_eq_false, Bool.or_eq_true, decide_eq_true_eq] at hspace
    rcases hspace with ((rfl | rfl) | rfl) | rfl <;> exact hnumber (by decide)
  -- such a character begins a number or nothing, and no number stands there
  obtain ⟨ts, hts, hrun⟩ := Option.bind_eq_some_iff.1 h
  rw [all?_cons hspace, next?_of_not_mem_marks hmark] at hts
  obtain ⟨⟨t, r'⟩, hnext, hts⟩ := Option.bind_eq_some_iff.1 hts
  obtain ⟨us, -, rfl⟩ := Option.map_eq_some_iff.1 hts
  obtain ⟨⟨l, r''⟩, -, heq⟩ := Option.map_eq_some_iff.1 hnext
  cases heq
  cases f <;> cases hrun

end Document

end PgRole.Json
