import Mathlib.Data.List.Basic
import Mathlib.Data.List.TakeWhile
import PgRole.Proofs.Text.Digits
import PgRole.Sql.Bound

/-!
# Tokens of a statement text

How the server splits a statement text, as far as a text without constants and comments goes: words,
names in double quotes, parameters `$n`, operators and marks, with white space between them. A name
in quotes ends at the first quote that is not doubled; a parameter is a dollar sign with all digits
after it; words and operators go on as long as they can. `tokens?` has no answer for any other text.

Parameters are numbers in a text and values in a statement, so `Token` is over either; `number` goes
from values to numbers.

* `tokens?_append`: a text is read the same whatever follows, if it ends in white space or a mark,
  or if what follows begins so.
* `number_injective`: the numbered tokens and the values together give back the tokens.
-/

namespace PgRole.Sql

/-- A lexical unit of a statement. -/
inductive Token (ν : Type) where
  | word (s : String)
  | name (s : String)
  | param (v : ν)
  | operator (s : String)
  | mark (c : Char)
  deriving DecidableEq, Repr

/-- White space of a statement text. -/
def isSpace (c : Char) : Bool := c ∈ [' ', '\t', '\n', '\r', '\x0b', '\x0c']

/-- A character that a word may begin with. -/
def isWordStart (c : Char) : Bool := c.isAlpha || c = '_' || 128 ≤ c.toNat

/-- A character that a word may go on with. -/
def isWordPart (c : Char) : Bool := isWordStart c || Text.isDigit c || c = '$'

/-- A character of operators, of those that begin no comment. -/
def isOperatorPart (c : Char) : Bool :=
  c ∈ ['<', '>', '=', '!', '~', '*', '%', '^', '|', '#', '@', '?']

/-- A character that is a unit by itself. -/
def isMark (c : Char) : Bool := c ∈ ['(', ')', '[', ']', ',', ';', '.']

/-- The name up to the first quote that is not doubled, and what follows that quote. -/
def readName? : List Char → Option (List Char × List Char)
  | '"' :: '"' :: r => (readName? r).map fun (name, s) => ('"' :: name, s)
  | '"' :: r => some ([], r)
  | c :: r => (readName? r).map fun (name, s) => (c :: name, s)
  | [] => none

/-- The first unit of a text that does not begin with white space, and what follows it. -/
def readToken? : List Char → Option (Token Nat × List Char)
  | [] => none
  | '"' :: r =>
    (readName? r).bind fun (name, s) =>
      if name.isEmpty then none else some (.name (String.ofList name), s)
  | '$' :: r =>
    if (r.takeWhile Text.isDigit).isEmpty then none
    else some (.param (Text.valueOf (r.takeWhile Text.isDigit)), r.dropWhile Text.isDigit)
  | c :: r =>
    if isWordStart c then
      some (.word (String.ofList (c :: r.takeWhile isWordPart)), r.dropWhile isWordPart)
    else if isOperatorPart c then
      some (.operator (String.ofList (c :: r.takeWhile isOperatorPart)),
        r.dropWhile isOperatorPart)
    else if isMark c then some (.mark c, r)
    else none

/-- A name that is read ends at a quote. -/
theorem readName?_suffix {cs name s : List Char} (h : readName? cs = some (name, s)) :
    ∃ p, cs = p ++ '"' :: s := by
  fun_induction readName? cs generalizing name s with
  | case1 r ih =>
    obtain ⟨⟨name', s'⟩, hr, he⟩ := Option.map_eq_some_iff.1 h
    obtain ⟨p, rfl⟩ := ih hr
    cases he
    exact ⟨'"' :: '"' :: p, rfl⟩
  | case2 r => cases h; exact ⟨[], rfl⟩
  | case3 c r _ _ ih =>
    obtain ⟨⟨name', s'⟩, hr, he⟩ := Option.map_eq_some_iff.1 h
    obtain ⟨p, rfl⟩ := ih hr
    cases he
    exact ⟨c :: p, rfl⟩
  | case4 => cases h

/-- A unit takes at least one character off the front. -/
theorem readToken?_suffix {cs s : List Char} {t : Token Nat} (h : readToken? cs = some (t, s)) :
    ∃ c p, cs = c :: p ++ s := by
  have hspan (q : Char → Bool) (c : Char) (r : List Char) :
      ∃ c' p, c :: r = c' :: p ++ r.dropWhile q :=
    ⟨c, r.takeWhile q, by rw [List.cons_append, List.takeWhile_append_dropWhile]⟩
  unfold readToken? at h
  split at h
  · cases h
  · obtain ⟨⟨name, s'⟩, hn, h⟩ := Option.bind_eq_some_iff.1 h
    obtain ⟨p, hp⟩ := readName?_suffix hn
    dsimp only at h
    split_ifs at h
    cases h
    exact ⟨'"', p ++ ['"'], by simp [hp]⟩
  · split_ifs at h
    cases h
    exact hspan _ _ _
  · split_ifs at h
    · cases h; exact hspan _ _ _
    · cases h; exact hspan _ _ _
    · cases h; exact ⟨_, [], rfl⟩

theorem readToken?_length {cs s : List Char} {t : Token Nat} (h : readToken? cs = some (t, s)) :
    s.length < cs.length := by
  obtain ⟨c, p, rfl⟩ := readToken?_suffix h
  rw [List.cons_append, List.length_cons, List.length_append]
  omega

/-- The units of a text. -/
def tokens? (cs : List Char) : Option (List (Token Nat)) :=
  match cs with
  | [] => some []
  | c :: r =>
    if isSpace c then tokens? r
    else
      match _h : readToken? (c :: r) with
      | none => none
      | some (t, s) => (tokens? s).map (t :: ·)
termination_by cs.length
decreasing_by
  · simp
  · exact readToken?_length ‹_›

theorem tokens?_nil : tokens? [] = some [] := by rw [tokens?]

theorem tokens?_space {c : Char} (h : isSpace c) (r : List Char) :
    tokens? (c :: r) = tokens? r := by
  rw [tokens?, if_pos h]

theorem readToken?_space {c : Char} (h : isSpace c) (r : List Char) :
    readToken? (c :: r) = none := by
  simp only [isSpace, List.mem_cons, List.not_mem_nil, or_false, decide_eq_true_eq] at h
  rcases h with rfl | rfl | rfl | rfl | rfl | rfl <;> rfl

/-- One unit off the front. -/
theorem tokens?_read {cs r : List Char} {t : Token Nat} (h : readToken? cs = some (t, r)) :
    tokens? cs = (tokens? r).map (t :: ·) := by
  cases cs with
  | nil => cases h
  | cons c cs =>
    have hs : ¬ isSpace c := fun hs => by rw [readToken?_space hs] at h; cases h
    rw [tokens?, if_neg hs]
    split
    · rename_i hn; rw [h] at hn; cases hn
    · rename_i hn; rw [h] at hn; cases hn; rfl

/-- The units of a text that has at most so many units and white space characters. It goes down
with that number, so that it can be evaluated. -/
def tokensWithin : Nat → List Char → Option (List (Token Nat))
  | _, [] => some []
  | 0, _ :: _ => none
  | n + 1, c :: r =>
    if isSpace c then tokensWithin n r
    else (readToken? (c :: r)).bind fun (t, s) => (tokensWithin n s).map (t :: ·)

/-- Tokens that are read within any number of steps are the tokens of the text. -/
theorem tokens?_of_tokensWithin {cs : List Char} {ts : List (Token Nat)} (n : Nat)
    (h : tokensWithin n cs = some ts) : tokens? cs = some ts := by
  induction n generalizing cs ts with
  | zero =>
    cases cs with
    | nil => rw [tokens?_nil, ← h, tokensWithin]
    | cons c r => cases h
  | succ n ih =>
    cases cs with
    | nil => rw [tokens?_nil, ← h, tokensWithin]
    | cons c r =>
      rw [tokensWithin] at h
      split_ifs at h with hc
      · rw [tokens?_space hc]
        exact ih h
      · obtain ⟨⟨t, s⟩, hr, h⟩ := Option.bind_eq_some_iff.1 h
        obtain ⟨ts', hs, rfl⟩ := Option.map_eq_some_iff.1 h
        rw [tokens?_read hr, ih hs]
        rfl

/-! ## Reading is local -/

/-- White space and marks end every unit before them and are not continued by what follows. -/
def isBoundary (c : Char) : Bool := isSpace c || isMark c

/-- A text that no unit before it goes on into. -/
def Apart (cs : List Char) : Prop := ∀ c ∈ cs.head?, isBoundary c

/-- A text that ends with its last unit. -/
def Closed (cs : List Char) : Prop := ∀ c ∈ cs.getLast?, isBoundary c

theorem not_of_isBoundary {c : Char} (h : isBoundary c) :
    c ≠ '"' ∧ Text.isDigit c = false ∧ isWordPart c = false ∧ isOperatorPart c = false := by
  simp only [isBoundary, isSpace, isMark, Bool.or_eq_true, List.mem_cons, List.not_mem_nil,
    or_false, decide_eq_true_eq] at h
  rcases h with (rfl | rfl | rfl | rfl | rfl | rfl) | rfl | rfl | rfl | rfl | rfl | rfl | rfl <;>
    decide

theorem Closed.suffix {a b : List Char} (h : Closed (a ++ b)) : Closed b := by
  intro c hc
  refine h c ?_
  rw [List.getLast?_append, hc]
  rfl

/-- A run of characters goes no further if it ended before, or what follows does not go on with it.
-/
theorem span_append {p : Char → Bool} {a b : List Char}
    (h : a.dropWhile p ≠ [] ∨ ∀ c ∈ b.head?, p c = false) :
    (a ++ b).takeWhile p = a.takeWhile p ∧ (a ++ b).dropWhile p = a.dropWhile p ++ b := by
  induction a with
  | nil =>
    have h := h.resolve_left (by simp)
    cases b with
    | nil => simp
    | cons c b => simp [h c rfl]
  | cons c a ih =>
    by_cases hc : p c
    · have := ih (by simpa [hc] using h)
      simpa [hc] using this
    · simp [hc]

/-- Where a run of characters of one kind ends in a text, or what follows ends it. -/
theorem run_ends {p : Char → Bool} (hp : ∀ c, isBoundary c → p c = false) {c : Char}
    {r b : List Char} (hc : ¬ isBoundary c) (h : Closed (c :: r) ∨ Apart b) :
    r.dropWhile p ≠ [] ∨ ∀ c ∈ b.head?, p c = false := by
  rcases h with h | h
  · refine .inl fun hd => ?_
    have hall : ∀ d ∈ r, p d := List.dropWhile_eq_nil_iff.1 hd
    have hlast := h _ (List.getLast?_eq_some_getLast (List.cons_ne_nil c r))
    rcases List.mem_cons.1 (List.getLast_mem (List.cons_ne_nil c r)) with he | he
    · exact hc (he ▸ hlast)
    · exact absurd (hall _ he) (by simp [hp _ hlast])
  · exact .inr fun d hd => hp d (h d hd)

/-- A name is read so whatever stands behind it, if that is not another quote. -/
theorem readName?_append {cs name s b : List Char} (h : readName? cs = some (name, s))
    (hb : s = [] → b.head? ≠ some '"') : readName? (cs ++ b) = some (name, s ++ b) := by
  fun_induction readName? cs generalizing name s with
  | case1 r ih =>
    obtain ⟨⟨name', s'⟩, hr, he⟩ := Option.map_eq_some_iff.1 h
    cases he
    simp [readName?, ih hr hb]
  | case2 r hr =>
    cases h
    cases r with
    | nil =>
      cases b with
      | nil => rfl
      | cons c b =>
        have : c ≠ '"' := by simpa using hb rfl
        simp [readName?, this]
    | cons c r =>
      have : c ≠ '"' := fun hc => hr r (by rw [hc])
      simp [readName?, this]
  | case3 c r h1 h2 ih =>
    obtain ⟨⟨name', s'⟩, hr, he⟩ := Option.map_eq_some_iff.1 h
    cases he
    rw [List.cons_append, readName?, ih hr hb]
    · rfl
    · exact fun _ hc _ => h2 hc
    · exact h2
  | case4 => cases h

/-- A unit is read the same whatever follows, if it is ended. -/
theorem readToken?_append {a s b : List Char} {t : Token Nat} (h : readToken? a = some (t, s))
    (hb : Closed a ∨ Apart b) : readToken? (a ++ b) = some (t, s ++ b) := by
  unfold readToken? at h
  split at h
  · cases h
  · rename_i r
    obtain ⟨⟨name, s'⟩, hn, h⟩ := Option.bind_eq_some_iff.1 h
    dsimp only at h
    split_ifs at h with hname
    cases h
    -- a quote right behind the closing one would be read as part of the name
    have hquote : s = [] → b.head? ≠ some '"' := by
      rintro rfl hq
      rcases hb with hb | hb
      · obtain ⟨p, rfl⟩ := readName?_suffix hn
        have hlast : ('"' :: (p ++ ['"'])).getLast? = some '"' := by
          rw [← List.cons_append, List.getLast?_concat]
        exact absurd (hb '"' hlast) (by decide)
      · exact (not_of_isBoundary (hb _ hq)).1 rfl
    have := readName?_append hn hquote
    simpa [readToken?, this] using hname
  · rename_i r
    split_ifs at h with hr
    cases h
    obtain ⟨ht, hd⟩ := span_append (p := Text.isDigit) (run_ends
      (fun c hc => (not_of_isBoundary hc).2.1) (by decide) hb)
    simp [readToken?, ht, hd, hr]
  · rename_i c r h1 h2
    -- a run of a class ends with the text, since what follows is of no class
    have hrun (p : Char → Bool) (hp : ∀ c, isBoundary c → p c = false) (hc : p c) :=
      span_append (p := p) (run_ends hp (fun h => by simp [hp c h] at hc) hb)
    rw [List.cons_append, readToken?]
    · split_ifs at h with hw ho hm
      · cases h
        obtain ⟨ht, hd⟩ := hrun isWordPart (fun c hc => (not_of_isBoundary hc).2.2.1)
          (by simp [isWordPart, hw])
        simp [hw, ht, hd]
      · cases h
        obtain ⟨ht, hd⟩ := hrun isOperatorPart (fun c hc => (not_of_isBoundary hc).2.2.2) ho
        simp [hw, ho, ht, hd]
      · cases h
        simp [hw, ho, hm]
    · exact h1
    · exact h2

/-- A text is read the same whatever follows, if its last unit is ended. -/
theorem tokens?_append {a b : List Char} {ts : List (Token Nat)} (ha : tokens? a = some ts)
    (hb : Closed a ∨ Apart b) : tokens? (a ++ b) = (tokens? b).map (ts ++ ·) := by
  fun_induction tokens? a generalizing ts with
  | case1 => cases ha; simp
  | case2 c r hc ih =>
    rw [List.cons_append, tokens?_space hc]
    exact ih ha (hb.imp_left fun h => h.suffix (a := [c]))
  | case3 c r hc hn => cases ha
  | case4 c r hc t s hn ih =>
    obtain ⟨ts', hs, rfl⟩ := Option.map_eq_some_iff.1 ha
    obtain ⟨d, p, hp⟩ := readToken?_suffix hn
    have hs' := ih hs (hb.imp_left fun h => by rw [hp] at h; exact h.suffix)
    rw [tokens?_read (readToken?_append hn hb), hs', Option.map_map]
    rfl

/-! ## Quoted names and numbered parameters -/

/-- A name whose quotes are doubled is read as the name. -/
theorem readName?_doubled (name : List Char) :
    readName? (name.flatMap (fun c => if c = '"' then ['"', '"'] else [c]) ++ ['"']) =
      some (name, []) := by
  induction name with
  | nil => rfl
  | cons c name ih =>
    by_cases hc : c = '"'
    · simp [hc, readName?, ih]
    · rw [List.flatMap_cons, if_neg hc, List.append_assoc, List.singleton_append, readName?, ih]
      · rfl
      · exact fun _ h _ => hc h
      · exact hc

/-- A quoted name reads as the name, whatever its characters are. -/
theorem tokens?_quotedName {name : List Char} (h : name ≠ []) :
    tokens? (quotedName name) = some [.name (String.ofList name)] := by
  have hr : readToken? (quotedName name) = some (.name (String.ofList name), []) := by
    simp [quotedName, readToken?, readName?_doubled, h]
  rw [tokens?_read hr, tokens?_nil]
  rfl

theorem tokens?_paramText (k : Nat) : tokens? (paramText k) = some [.param k] := by
  have hall : ∀ c ∈ Text.decimal k, Text.isDigit c := fun c => Text.isDigit_of_mem_decimal
  have hr : readToken? (paramText k) = some (.param k, []) := by
    rw [paramText, readToken?, List.takeWhile_eq_self_iff.2 hall,
      List.dropWhile_eq_nil_iff.2 hall, Text.valueOf_decimal, if_neg]
    simpa using Text.decimal_ne_nil k
  rw [tokens?_read hr, tokens?_nil]
  rfl

/-! ## Numbering -/

namespace Token

/-- The number or value of a parameter. -/
def param? {ν : Type} : Token ν → Option ν
  | param v => some v
  | _ => none

/-- Tokens with the values numbered from `k` on in the order in which they stand. -/
def number (k : Nat) : List (Token Json) → List (Token Nat)
  | [] => []
  | word s :: r => word s :: number k r
  | name s :: r => name s :: number k r
  | operator s :: r => operator s :: number k r
  | mark c :: r => mark c :: number k r
  | param _ :: r => param k :: number (k + 1) r

/-- The values of tokens. -/
def values (ts : List (Token Json)) : List Json := ts.filterMap param?

variable {ts : List (Token Json)}

@[simp] theorem values_nil : values [] = [] := rfl
@[simp] theorem values_word (s : String) : values (word s :: ts) = values ts := rfl
@[simp] theorem values_name (s : String) : values (name s :: ts) = values ts := rfl
@[simp] theorem values_param (v : Json) : values (param v :: ts) = v :: values ts := rfl
@[simp] theorem values_operator (s : String) : values (operator s :: ts) = values ts := rfl
@[simp] theorem values_mark (c : Char) : values (mark c :: ts) = values ts := rfl

theorem values_append (ts us : List (Token Json)) :
    values (ts ++ us) = values ts ++ values us :=
  List.filterMap_append

/-- Parameters are numbered on behind those in front of them. -/
theorem number_append (k : Nat) (ts us : List (Token Json)) :
    number k (ts ++ us) = number k ts ++ number (k + (values ts).length) us := by
  induction ts generalizing k with
  | nil => simp [number, values]
  | cons t ts ih =>
    cases t with
    | param v =>
      simp only [List.cons_append, number, ih, values, List.filterMap_cons, param?,
        List.length_cons]
      rw [Nat.add_assoc, Nat.add_comm 1]
    | _ => simp [number, ih, values, List.filterMap_cons, param?]

/-- Every parameter stands once, in the order of the numbers. -/
theorem params_number (k : Nat) (ts : List (Token Json)) :
    (number k ts).filterMap param? = List.range' k (values ts).length := by
  induction ts generalizing k with
  | nil => rfl
  | cons t ts ih =>
    cases t with
    | param v =>
      simpa [number, values, List.filterMap_cons, param?, List.range'_succ] using ih (k + 1)
    | _ => simpa [number, values, List.filterMap_cons, param?] using ih k

theorem word_mem_number {k : Nat} {ts : List (Token Json)} {s : String} :
    word s ∈ number k ts ↔ word s ∈ ts := by
  induction ts generalizing k with
  | nil => simp [number]
  | cons t ts ih => cases t <;> simp [number, ih]

/-- The numbered tokens and the values together give back the tokens. -/
theorem number_injective {k : Nat} {ts us : List (Token Json)} (hn : number k ts = number k us)
    (hv : values ts = values us) : ts = us := by
  induction ts generalizing k us with
  | nil =>
    cases us with
    | nil => rfl
    | cons u us => cases u <;> simp [number] at hn
  | cons t ts ih =>
    cases us with
    | nil => cases t <;> simp [number] at hn
    | cons u us =>
      cases t <;> cases u <;>
        simp only [number, List.cons.injEq, reduceCtorEq, false_and, word.injEq, name.injEq,
          operator.injEq, mark.injEq, true_and] at hn
      all_goals simp only [values, List.filterMap_cons, param?, List.cons.injEq] at hv
      case param.param => rw [hv.1, ih hn hv.2]
      all_goals rw [hn.1, ih hn.2 hv]

end Token

end PgRole.Sql
