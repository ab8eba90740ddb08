import Mathlib.Data.List.Forall2
import PgRole.Json.Printer
import PgRole.Json.Token
import PgRole.Proofs.Text.Digits
import PgRole.Proofs.Text.Span

/-!
# Tokens of written values

What the lexer makes of a string or a number that the printer wrote, in front of more text. A
string ends at its quote (`next?_stringText`). A number has no end of its own: it is read to its end
if it does not go on in what follows (`next?_number`), as it does not in front of one of the
characters that stand behind a value.
-/

namespace PgRole.Json

/-- What may follow a value: nothing, or a character that goes on or closes a list or an object. -/
def EndsValue (cs : List Char) : Prop := ∀ c ∈ cs.head?, c = ',' ∨ c = ']' ∨ c = '\x7d'

theorem endsValue_nil : EndsValue [] := by simp [EndsValue]

theorem endsValue_cons {c : Char} {cs : List Char} (h : c = ',' ∨ c = ']' ∨ c = '\x7d') :
    EndsValue (c :: cs) := by
  rintro _ ⟨⟩
  exact h

/-- A text that no number goes on with. -/
def EndsNumber (cs : List Char) : Prop :=
  ∀ c ∈ cs.head?, Text.isDigit c = false ∧ c ≠ '.' ∧ c ≠ 'e' ∧ c ≠ 'E'

theorem EndsValue.endsNumber {cs : List Char} (h : EndsValue cs) : EndsNumber cs := by
  intro c hc
  rcases h c hc with rfl | rfl | rfl <;> decide

/-! ## Strings -/

/-- A unit stands for a character: by itself, or by its number if that is small. -/
inductive StringUnit.Denotes : StringUnit → Char → Prop where
  | plain (c : Char) : Denotes (.plain c) c
  | coded {c : Char} (h : c < ' ') : Denotes (.coded c.toNat) c

/-- A code below the surrogates is a character by itself. -/
theorem joinUnits_coded {n : Nat} (h : n < 0xD800) (units : List StringUnit) :
    joinUnits (.coded n :: units) = (joinUnits units).map (Char.ofNat n :: ·) := by
  have hleading : isLeading n = false := by
    unfold isLeading
    rw [decide_eq_false (by omega), Bool.false_and]
  have htrailing : isTrailing n = false := by
    unfold isTrailing
    rw [decide_eq_false (by omega), Bool.false_and]
  rcases units with _ | ⟨_ | _, _⟩ <;> simp [joinUnits, hleading, htrailing]

/-- Units that denote characters are joined to these. -/
theorem joinUnits_of_denotes {units : List StringUnit} {cs : List Char}
    (h : List.Forall₂ StringUnit.Denotes units cs) : joinUnits units = some cs := by
  induction h with
  | nil => rfl
  | @cons u c _ _ hu _ ih =>
    cases hu with
    | plain => simp [joinUnits, ih]
    | coded hc =>
      have hlt : c.toNat < 32 := hc
      rw [joinUnits_coded (by omega), ih, Char.ofNat_toNat]
      rfl

theorem hexadecimal_small : ∀ n < 32, Text.padZero 4 (Text.hexadecimal n) =
    ['0', '0', Text.digitChar (n / 16), Text.digitChar (n % 16)] := by
  decide +kernel

/-- The four digits of a control character are read as its code. -/
theorem unit?_small {n : Nat} (h : n < 32) :
    unit? '0' '0' (Text.digitChar (n / 16)) (Text.digitChar (n % 16)) = some n := by
  have hzero : Text.hexVal? '0' = some 0 := by decide
  have hhigh := Text.hexVal?_digitChar (n := n / 16) (by omega)
  have hlow := Text.hexVal?_digitChar (n := n % 16) (by omega)
  simp only [unit?, hzero, hhigh, hlow, bind, Option.bind, pure, Option.some.injEq]
  omega

/-- A unit put in front of those that are read. -/
def withUnit (u : StringUnit) (read : Option (List StringUnit × List Char)) :
    Option (List StringUnit × List Char) :=
  read.map fun (units, r) => (u :: units, r)

theorem readUnits_short {e c : Char} (h : shortEscape? e = some c) (rest : List Char) :
    readUnits ('\\' :: e :: rest) = withUnit (.plain c) (readUnits rest) := by
  unfold shortEscape? at h
  split at h <;> cases h <;> simp [readUnits, shortEscape?, withUnit, Option.map_eq_bind]

theorem readUnits_coded {a b c d : Char} {n : Nat} (h : unit? a b c d = some n)
    (rest : List Char) :
    readUnits ('\\' :: 'u' :: a :: b :: c :: d :: rest) = withUnit (.coded n) (readUnits rest) := by
  simp [readUnits, h, withUnit, Option.map_eq_bind]

theorem readUnits_plain {c : Char} (hquote : c ≠ '"') (hslash : c ≠ '\\') (hlow : ¬ c < ' ')
    (rest : List Char) : readUnits (c :: rest) = withUnit (.plain c) (readUnits rest) := by
  rw [readUnits.eq_def]
  split <;> simp_all [withUnit, Option.map_eq_bind]

/-- A character of a string reads as one unit. -/
theorem readUnits_escaped (c : Char) : ∃ u : StringUnit, u.Denotes c ∧
    ∀ rest, readUnits (escaped c ++ rest) = withUnit u (readUnits rest) := by
  unfold escaped
  split_ifs with hquote hslash hb hf hn hr ht hlow
  · subst hquote
    exact ⟨_, .plain _, readUnits_short rfl⟩
  · subst hslash
    exact ⟨_, .plain _, readUnits_short rfl⟩
  · subst hb
    exact ⟨_, .plain _, readUnits_short rfl⟩
  · subst hf
    exact ⟨_, .plain _, readUnits_short rfl⟩
  · subst hn
    exact ⟨_, .plain _, readUnits_short rfl⟩
  · subst hr
    exact ⟨_, .plain _, readUnits_short rfl⟩
  · subst ht
    exact ⟨_, .plain _, readUnits_short rfl⟩
  · have hlt : c.toNat < 32 := hlow
    rw [hexadecimal_small _ hlt]
    exact ⟨_, .coded hlow, readUnits_coded (unit?_small hlt)⟩
  · exact ⟨_, .plain c, readUnits_plain hquote hslash hlow⟩

/-- The characters of a string are read up to its closing quote. -/
theorem readUnits_flatMap (cs rest : List Char) :
    ∃ units, List.Forall₂ StringUnit.Denotes units cs ∧
      readUnits (cs.flatMap escaped ++ '"' :: rest) = some (units, rest) := by
  induction cs with
  | nil => exact ⟨[], .nil, by simp [readUnits]⟩
  | cons c cs ih =>
    obtain ⟨units, hunits, hread⟩ := ih
    obtain ⟨u, hu, hescaped⟩ := readUnits_escaped c
    refine ⟨u :: units, .cons hu hunits, ?_⟩
    rw [List.flatMap_cons, List.append_assoc, hescaped, hread]
    rfl

/-- The text of a string is read as the string. -/
theorem next?_stringText (s : String) (rest : List Char) :
    Token.next? (stringText s ++ rest) = some (.str (some s), rest) := by
  obtain ⟨units, hunits, hread⟩ := readUnits_flatMap s.toList rest
  have htext : stringText s ++ rest = '"' :: (s.toList.flatMap escaped ++ '"' :: rest) := by
    simp [stringText]
  rw [htext, Token.next?, hread, Option.map_some]
  dsimp only
  rw [joinUnits_of_denotes hunits, Option.map_some, String.ofList_toList]

/-! ## Numbers -/

theorem isSpace_of_isDigit {c : Char} (h : Text.isDigit c) : isSpace c = false := by
  unfold isSpace
  simp only [Bool.or_eq_false_iff, decide_eq_false_iff_not]
  refine ⟨⟨⟨?_, ?_⟩, ?_⟩, ?_⟩ <;> rintro rfl <;> exact absurd h (by decide)

namespace Literal

variable {cs ds r rest : List Char}

/-- A run of digits is read so whatever stands behind it, if that is no digit. -/
theorem digits?_append_of_head (h : digits? cs = some (ds, r))
    (hrest : ∀ c ∈ (r ++ rest).head?, Text.isDigit c = false) :
    digits? (cs ++ rest) = some (ds, r ++ rest) := by
  unfold digits? at h ⊢
  dsimp only at h ⊢
  split_ifs at h with hempty
  cases h
  have hall : ∀ c ∈ cs.takeWhile Text.isDigit, Text.isDigit c := fun c hc =>
    List.mem_takeWhile_imp hc
  have hsplit : cs ++ rest =
      cs.takeWhile Text.isDigit ++ (cs.dropWhile Text.isDigit ++ rest) := by
    rw [← List.append_assoc, List.takeWhile_append_dropWhile]
  rw [hsplit, Text.takeWhile_run hall hrest, Text.dropWhile_run hall hrest, if_neg hempty]

/-- Digits stop at a character that is none. -/
theorem isDigit_head_of_digits? (h : digits? cs = some (ds, r)) :
    ∀ c ∈ r.head?, Text.isDigit c = false := by
  unfold digits? at h
  dsimp only at h
  split_ifs at h
  cases h
  intro c hc
  have := List.head?_dropWhile_not Text.isDigit cs
  rw [hc] at this
  simpa using this

theorem digits?_append (h : digits? cs = some (ds, r)) (hrest : r = [] → EndsNumber rest) :
    digits? (cs ++ rest) = some (ds, r ++ rest) := by
  refine digits?_append_of_head h ?_
  cases r with
  | nil => exact fun c hc => (hrest rfl c hc).1
  | cons c r => exact fun c' hc' => isDigit_head_of_digits? h c' hc'

/-- A text with one character at the front does not begin with another. -/
theorem cons_append_ne {c c' : Char} (h : ∀ r, c :: cs ≠ c' :: r) :
    ∀ r, c :: (cs ++ rest) ≠ c' :: r :=
  fun _ hr => h cs (by rw [(List.cons.inj hr).1])

/-- So is the part in front of the point. -/
theorem readWhole?_append (h : readWhole? cs = some (ds, r)) (hrest : r = [] → EndsNumber rest) :
    readWhole? (cs ++ rest) = some (ds, r ++ rest) := by
  unfold readWhole? at h
  split at h
  · cases h
    rfl
  · rename_i hzero
    cases cs with
    | nil => cases h
    | cons c cs =>
      rw [List.cons_append, readWhole?.eq_2 _ (cons_append_ne hzero)]
      exact digits?_append h hrest

/-- A reader that looks at the first character sees the same one in front of more text. -/
theorem head_append_ne (hrest : cs = [] → EndsNumber rest) {c : Char}
    (hc : c = '.' ∨ c = 'e' ∨ c = 'E') (hcs : ∀ r, cs ≠ c :: r) : ∀ r, cs ++ rest ≠ c :: r := by
  intro r h
  cases cs with
  | nil =>
    rw [List.nil_append] at h
    subst h
    obtain ⟨-, hpoint, he, hE⟩ := hrest rfl c rfl
    rcases hc with rfl | rfl | rfl
    · exact hpoint rfl
    · exact he rfl
    · exact hE rfl
  | cons c' cs => exact cons_append_ne hcs r h

/-- So is a fraction. -/
theorem readFraction?_append {f : Option (List Char)} (h : readFraction? cs = some (f, r))
    (hrest : r = [] → EndsNumber rest) : readFraction? (cs ++ rest) = some (f, r ++ rest) := by
  unfold readFraction? at h
  split at h
  · obtain ⟨⟨ds, r'⟩, hds, heq⟩ := Option.map_eq_some_iff.1 h
    cases heq
    rw [List.cons_append, readFraction?, digits?_append hds hrest]
    rfl
  · rename_i hpoint
    cases h
    exact readFraction?.eq_2 _ (head_append_ne hrest (.inl rfl) hpoint)

/-- So are the sign and the digits of an exponent. -/
theorem readExponentDigits?_append {e : Bool × List Char}
    (h : readExponentDigits? cs = some (e, r)) (hrest : r = [] → EndsNumber rest) :
    readExponentDigits? (cs ++ rest) = some (e, r ++ rest) := by
  unfold readExponentDigits? at h
  split at h
  · obtain ⟨⟨ds, r'⟩, hds, heq⟩ := Option.map_eq_some_iff.1 h
    cases heq
    rw [List.cons_append, readExponentDigits?, digits?_append hds hrest]
    rfl
  · obtain ⟨⟨ds, r'⟩, hds, heq⟩ := Option.map_eq_some_iff.1 h
    cases heq
    rw [List.cons_append, readExponentDigits?, digits?_append hds hrest]
    rfl
  · rename_i hminus hplus
    obtain ⟨⟨ds, r'⟩, hds, heq⟩ := Option.map_eq_some_iff.1 h
    cases heq
    cases cs with
    | nil => cases hds
    | cons c cs =>
      rw [readExponentDigits?.eq_3, digits?_append hds hrest]
      · rfl
      · exact cons_append_ne hminus
      · exact cons_append_ne hplus

/-- So is an exponent. -/
theorem readExponent?_append {e : Option (Bool × List Char)}
    (h : readExponent? cs = some (e, r)) (hrest : r = [] → EndsNumber rest) :
    readExponent? (cs ++ rest) = some (e, r ++ rest) := by
  unfold readExponent? at h
  split at h
  · obtain ⟨⟨e', r'⟩, he, heq⟩ := Option.map_eq_some_iff.1 h
    cases heq
    rw [List.cons_append, readExponent?, readExponentDigits?_append he hrest]
    rfl
  · obtain ⟨⟨e', r'⟩, he, heq⟩ := Option.map_eq_some_iff.1 h
    cases heq
    rw [List.cons_append, readExponent?, readExponentDigits?_append he hrest]
    rfl
  · rename_i he hE
    cases h
    exact readExponent?.eq_3 _ (head_append_ne hrest (.inr (.inl rfl)) he)
      (head_append_ne hrest (.inr (.inr rfl)) hE)

/-- So is a number without its sign. -/
theorem readUnsigned?_append {negative : Bool} {l : Literal}
    (h : readUnsigned? negative cs = some (l, r)) (hrest : r = [] → EndsNumber rest) :
    readUnsigned? negative (cs ++ rest) = some (l, r ++ rest) := by
  simp only [readUnsigned?, bind, Option.bind_eq_some_iff, Prod.exists, pure, Option.some.injEq,
    Prod.mk.injEq] at h
  obtain ⟨whole, r₁, hwhole, fraction, r₂, hfraction, exponent, r₃, hexponent, rfl, rfl⟩ := h
  -- where one part is read to the end of the text there is nothing left for the others
  have hrest₂ : r₂ = [] → EndsNumber rest := fun h₂ => hrest <| by
    have := readExponent?_length hexponent
    simpa [h₂] using this
  have hrest₁ : r₁ = [] → EndsNumber rest := fun h₁ => hrest₂ <| by
    have := readFraction?_length hfraction
    simpa [h₁] using this
  simp only [readUnsigned?, bind, Option.bind, pure, readWhole?_append hwhole hrest₁,
    readFraction?_append hfraction hrest₂, readExponent?_append hexponent hrest]

/-- A number is read to its end in front of what it does not go on with. -/
theorem read?_append {l : Literal} (h : read? cs = some (l, r)) (hrest : r = [] → EndsNumber rest) :
    read? (cs ++ rest) = some (l, r ++ rest) := by
  unfold read? at h
  split at h
  · rw [List.cons_append, read?, readUnsigned?_append h hrest]
  · rename_i hminus
    cases cs with
    | nil => cases h
    | cons c cs =>
      rw [List.cons_append, read?.eq_2 _ (cons_append_ne hminus)]
      exact readUnsigned?_append h hrest

/-- A number begins with a digit or a minus sign. -/
theorem exists_cons_of_read? {l : Literal} (h : read? cs = some (l, r)) :
    ∃ c cs', cs = c :: cs' ∧ (c = '-' ∨ Text.isDigit c) := by
  unfold read? at h
  split at h
  · exact ⟨_, _, rfl, .inl rfl⟩
  · simp only [readUnsigned?, bind, Option.bind_eq_some_iff, Prod.exists] at h
    obtain ⟨whole, r₁, hwhole, -⟩ := h
    unfold readWhole? at hwhole
    split at hwhole
    · exact ⟨_, _, rfl, .inr (by decide)⟩
    · unfold digits? at hwhole
      dsimp only at hwhole
      split_ifs at hwhole with hempty
      cases cs with
      | nil => simp at hempty
      | cons c cs =>
        refine ⟨c, cs, rfl, .inr ?_⟩
        by_contra hc
        simp [hc] at hempty

end Literal

/-- The characters that a token which is no number begins with. -/
def marks : List Char := ['[', ']', '\x7b', '\x7d', ',', ':', 'n', 't', 'f', '"']

/-- None of these is part of a number or stands between tokens. -/
theorem of_mem_marks {c : Char} (h : c ∈ marks) : c ≠ '-' ∧ Text.isDigit c = false ∧ c ≠ '.' ∧
    c ≠ 'e' ∧ c ≠ 'E' ∧ isSpace c = false := by
  have hall : marks.all fun c => c != '-' && !Text.isDigit c && c != '.' && c != 'e' && c != 'E' &&
      !isSpace c := by
    decide
  simpa [and_assoc] using List.all_eq_true.1 hall c h

/-- A character that begins nothing else begins a number. -/
theorem next?_of_not_mem_marks {c : Char} (hc : c ∉ marks) (cs : List Char) :
    Token.next? (c :: cs) = (Literal.read? (c :: cs)).map fun (l, r) => (.num l, r) := by
  rw [Token.next?.eq_11]
  all_goals
    rintro _ heq
    obtain ⟨rfl, -⟩ := List.cons.inj heq
    exact hc (by decide)

/-- A number is the next token whatever stands behind it, if that does not go on with it. -/
theorem next?_number {cs r rest : List Char} {l : Literal} (h : Literal.read? cs = some (l, r))
    (hrest : r = [] → EndsNumber rest) : Token.next? (cs ++ rest) = some (.num l, r ++ rest) := by
  have hread := Literal.read?_append h hrest
  obtain ⟨c, cs, rfl, hc⟩ := Literal.exists_cons_of_read? h
  have hmark : c ∉ marks := by
    intro hmem
    obtain ⟨hminus, hdigit, -⟩ := of_mem_marks hmem
    simp [hminus, hdigit] at hc
  rw [List.cons_append] at hread ⊢
  rw [next?_of_not_mem_marks hmark, hread]
  rfl

/-! ## White space and tokens -/

/-- No token begins with a space. -/
theorem isSpace_of_next? {c : Char} {r rest : List Char} {t : Token}
    (h : Token.next? (c :: r) = some (t, rest)) : isSpace c = false := by
  by_cases hmark : c ∈ marks
  · obtain ⟨-, -, -, -, -, hspace⟩ := of_mem_marks hmark
    exact hspace
  · rw [next?_of_not_mem_marks hmark] at h
    obtain ⟨⟨l, r'⟩, hread, -⟩ := Option.map_eq_some_iff.1 h
    obtain ⟨c', cs, hcons, hc⟩ := Literal.exists_cons_of_read? hread
    obtain ⟨rfl, -⟩ := List.cons.inj hcons
    rcases hc with rfl | hc
    · decide
    · exact isSpace_of_isDigit hc

theorem all?_cons {c : Char} (hc : isSpace c = false) (r : List Char) :
    Token.all? (c :: r) = (Token.next? (c :: r)).bind fun x => (Token.all? x.2).map (x.1 :: ·) := by
  rw [Token.all?, if_neg (by simp [hc])]
  split <;> simp [*]

end PgRole.Json
