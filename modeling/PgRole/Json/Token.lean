import PgRole.Json.Number

/-!
# JSON tokens

The lexical units of a JSON text and the lexer. White space between tokens is space, tab, line feed
and carriage return. A string may be written with an escape for half of a surrogate pair; such a
string is a token, but without a text (`Token.str none`).

* `Token.next?_length`: a token takes at least one character.
-/

namespace PgRole.Json

/-- A piece of a string as it is written: a character or a code unit of four hexadecimal digits. -/
inductive StringUnit where
  | plain (c : Char)
  | coded (n : Nat)
  deriving DecidableEq, Repr

/-- The first half of a surrogate pair. -/
def isLeading (n : Nat) : Bool := decide (0xD800 ≤ n) && decide (n < 0xDC00)

/-- The second half of a surrogate pair. -/
def isTrailing (n : Nat) : Bool := decide (0xDC00 ≤ n) && decide (n < 0xE000)

/-- The character of a surrogate pair. -/
def joinPair (a b : Nat) : Char := Char.ofNat (0x10000 + (a - 0xD800) * 0x400 + (b - 0xDC00))

/-- The characters that units denote, if every surrogate has its partner. -/
def joinUnits : List StringUnit → Option (List Char)
  | [] => some []
  | .plain c :: r => (joinUnits r).map (c :: ·)
  | .coded a :: .coded b :: r =>
    if isLeading a then
      if isTrailing b then (joinUnits r).map (joinPair a b :: ·) else none
    else if isTrailing a then none
    else (joinUnits (.coded b :: r)).map (Char.ofNat a :: ·)
  | .coded a :: r =>
    if isLeading a || isTrailing a then none else (joinUnits r).map (Char.ofNat a :: ·)

/-- The number that four hexadecimal digits denote. -/
def unit? (a b c d : Char) : Option Nat := do
  let x ← Text.hexVal? a
  let y ← Text.hexVal? b
  let z ← Text.hexVal? c
  let w ← Text.hexVal? d
  pure (((16 * x + y) * 16 + z) * 16 + w)

/-- The character that a letter after a backslash stands for. -/
def shortEscape? : Char → Option Char
  | '"' => some '"'
  | '\\' => some '\\'
  | '/' => some '/'
  | 'b' => some '\x08'
  | 'f' => some '\x0c'
  | 'n' => some '\n'
  | 'r' => some '\r'
  | 't' => some '\t'
  | _ => none

/-- The units of a string up to its closing quote, and what follows the quote. -/
def readUnits : List Char → Option (List StringUnit × List Char)
  | '"' :: r => some ([], r)
  | '\\' :: 'u' :: a :: b :: c :: d :: r => do
    let n ← unit? a b c d
    let (units, r) ← readUnits r
    pure (.coded n :: units, r)
  | '\\' :: e :: r => do
    let c ← shortEscape? e
    let (units, r) ← readUnits r
    pure (.plain c :: units, r)
  | '\\' :: [] => none
  | c :: r =>
    if c < ' ' then none
    else do
      let (units, r) ← readUnits r
      pure (.plain c :: units, r)
  | [] => none

theorem readUnits_length {cs r : List Char} {units : List StringUnit}
    (h : readUnits cs = some (units, r)) : r.length < cs.length := by
  fun_induction readUnits cs generalizing units r <;>
    simp_all [Option.bind_eq_some_iff] <;> grind

/-- A lexical unit. -/
inductive Token where
  | openList
  | closeList
  | openObject
  | closeObject
  | comma
  | colon
  | null
  | bool (b : Bool)
  | num (n : Literal)
  | str (s : Option String)
  deriving DecidableEq, Repr

/-- Whether a character may stand between tokens. -/
def isSpace (c : Char) : Bool := c = ' ' || c = '\t' || c = '\n' || c = '\r'

namespace Literal

/-- One or more digits. -/
def digits? (cs : List Char) : Option (List Char × List Char) :=
  let ds := cs.takeWhile Text.isDigit
  if ds.isEmpty then none else some (ds, cs.dropWhile Text.isDigit)

/-- The digits before the point: a zero alone or digits that start with none. -/
def readWhole? : List Char → Option (List Char × List Char)
  | '0' :: r => some (['0'], r)
  | cs => digits? cs

/-- The digits after a point, if there is a point. -/
def readFraction? : List Char → Option (Option (List Char) × List Char)
  | '.' :: r => (digits? r).map fun (ds, r) => (some ds, r)
  | cs => some (none, cs)

/-- The digits of an exponent after its sign. -/
def readExponentDigits? : List Char → Option ((Bool × List Char) × List Char)
  | '-' :: r => (digits? r).map fun (ds, r) => ((true, ds), r)
  | '+' :: r => (digits? r).map fun (ds, r) => ((false, ds), r)
  | cs => (digits? cs).map fun (ds, r) => ((false, ds), r)

/-- The exponent, if there is one. -/
def readExponent? : List Char → Option (Option (Bool × List Char) × List Char)
  | 'e' :: r => (readExponentDigits? r).map fun (e, r) => (some e, r)
  | 'E' :: r => (readExponentDigits? r).map fun (e, r) => (some e, r)
  | cs => some (none, cs)

/-- The number after its sign. -/
def readUnsigned? (negative : Bool) (cs : List Char) : Option (Literal × List Char) := do
  let (whole, r) ← readWhole? cs
  let (fraction, r) ← readFraction? r
  let (exponent, r) ← readExponent? r
  pure (⟨negative, whole, fraction, exponent⟩, r)

/-- A number and what follows it. -/
def read? : List Char → Option (Literal × List Char)
  | '-' :: r => readUnsigned? true r
  | cs => readUnsigned? false cs

theorem digits?_length {cs ds r : List Char} (h : digits? cs = some (ds, r)) :
    r.length < cs.length := by
  simp only [digits?, Option.ite_none_left_eq_some, Option.some.injEq, Prod.mk.injEq] at h
  obtain ⟨hne, rfl, rfl⟩ := h
  have := congrArg List.length (List.takeWhile_append_dropWhile (p := Text.isDigit) (l := cs))
  have hpos : 0 < (cs.takeWhile Text.isDigit).length := by
    cases hd : cs.takeWhile Text.isDigit <;> simp_all
  simp only [List.length_append] at this
  omega

theorem readWhole?_length {cs ds r : List Char} (h : readWhole? cs = some (ds, r)) :
    r.length < cs.length := by
  unfold readWhole? at h
  split at h
  · simp only [Option.some.injEq, Prod.mk.injEq] at h
    simp [← h.2]
  · exact digits?_length h

theorem readFraction?_length {cs r : List Char} {f : Option (List Char)}
    (h : readFraction? cs = some (f, r)) : r.length ≤ cs.length := by
  unfold readFraction? at h
  split at h
  · simp only [Option.map_eq_some_iff, Prod.mk.injEq] at h
    obtain ⟨⟨ds, r'⟩, hd, -, rfl⟩ := h
    have := digits?_length hd
    simp only [List.length_cons]
    omega
  · simp only [Option.some.injEq, Prod.mk.injEq] at h
    simp [← h.2]

theorem readExponentDigits?_length {cs r : List Char} {e : Bool × List Char}
    (h : readExponentDigits? cs = some (e, r)) : r.length < cs.length := by
  unfold readExponentDigits? at h
  split at h <;>
    (simp only [Option.map_eq_some_iff, Prod.mk.injEq] at h
     obtain ⟨⟨ds, r'⟩, hd, -, rfl⟩ := h
     have := digits?_length hd
     simp only [List.length_cons] at *
     omega)

/-- An exponent is optional, so that the text may be as long as before. -/
theorem readExponent?_length {cs r : List Char} {e : Option (Bool × List Char)}
    (h : readExponent? cs = some (e, r)) : r.length ≤ cs.length := by
  unfold readExponent? at h
  split at h
  · simp only [Option.map_eq_some_iff, Prod.mk.injEq] at h
    obtain ⟨⟨e', r'⟩, hd, -, rfl⟩ := h
    have := readExponentDigits?_length hd
    simp only [List.length_cons]
    omega
  · simp only [Option.map_eq_some_iff, Prod.mk.injEq] at h
    obtain ⟨⟨e', r'⟩, hd, -, rfl⟩ := h
    have := readExponentDigits?_length hd
    simp only [List.length_cons]
    omega
  · simp only [Option.some.injEq, Prod.mk.injEq] at h
    simp [← h.2]

theorem readUnsigned?_length {negative : Bool} {cs r : List Char} {l : Literal}
    (h : readUnsigned? negative cs = some (l, r)) : r.length < cs.length := by
  simp only [readUnsigned?, bind, Option.bind_eq_some_iff, Prod.exists, pure, Option.some.injEq,
    Prod.mk.injEq] at h
  obtain ⟨ws, r1, h1, fs, r2, h2, es, r3, h3, -, rfl⟩ := h
  have := readWhole?_length h1
  have := readFraction?_length h2
  have := readExponent?_length h3
  omega

theorem read?_length {cs r : List Char} {l : Literal} (h : read? cs = some (l, r)) :
    r.length < cs.length := by
  unfold read? at h
  split at h
  · have := readUnsigned?_length h
    simp only [List.length_cons]
    omega
  · exact readUnsigned?_length h

end Literal

namespace Token

/-- The token at the front of a text and what follows it. -/
def next? : List Char → Option (Token × List Char)
  | '[' :: r => some (.openList, r)
  | ']' :: r => some (.closeList, r)
  | '\x7b' :: r => some (.openObject, r)
  | '\x7d' :: r => some (.closeObject, r)
  | ',' :: r => some (.comma, r)
  | ':' :: r => some (.colon, r)
  | 'n' :: 'u' :: 'l' :: 'l' :: r => some (.null, r)
  | 't' :: 'r' :: 'u' :: 'e' :: r => some (.bool true, r)
  | 'f' :: 'a' :: 'l' :: 's' :: 'e' :: r => some (.bool false, r)
  | '"' :: r => (readUnits r).map fun (units, r) => (.str ((joinUnits units).map String.ofList), r)
  | cs => (Literal.read? cs).map fun (l, r) => (.num l, r)

/-- A token takes at least one character. -/
theorem next?_length {cs r : List Char} {t : Token} (h : next? cs = some (t, r)) :
    r.length < cs.length := by
  unfold next? at h
  split at h
  all_goals first
    | (simp only [Option.some.injEq, Prod.mk.injEq] at h
       obtain ⟨-, rfl⟩ := h
       simp only [List.length_cons]
       omega)
    | (simp only [Option.map_eq_some_iff, Prod.mk.injEq] at h
       obtain ⟨⟨u, r'⟩, hu, -, rfl⟩ := h
       first
         | exact Nat.lt_succ_of_lt (readUnits_length hu)
         | exact Literal.read?_length hu)

/-- The tokens of a text. -/
def all? (cs : List Char) : Option (List Token) :=
  match cs with
  | [] => some []
  | c :: r =>
    if isSpace c then all? r
    else
      match _h : next? (c :: r) with
      | none => none
      | some (t, rest) => (all? rest).map (t :: ·)
termination_by cs.length
decreasing_by
  · simp
  · exact next?_length (by assumption)

end Token

end PgRole.Json
