import PgRole.Credentials.Profile

/-!
# References to the environment

A field may refer to a variable of the environment: double braces around `env.` and a name, white
space allowed next to the braces. `resolve` replaces all references of a text at once, so that what
a variable holds is not looked at again; a variable that is not set is an error.

* `readReference?_length`: a reference takes at least one character.
-/

namespace PgRole.Credentials

/-- The variables that are set. -/
abbrev Environment := Keyed String

/-- A piece of a text: a character, or a reference to a variable. -/
inductive ReferencePiece where
  | char (c : Char)
  | reference (name : List Char)
  deriving DecidableEq, Repr

/-- Whether a character can begin the name of a variable. -/
def isNameStart (c : Char) : Bool := c.isAlpha || c == '_'

/-- Whether a character can stand in the name of a variable. -/
def isNameChar (c : Char) : Bool := c.isAlphanum || c == '_'

/-- What follows the two closing braces, white space before them. -/
def readClose? (cs : List Char) : Option (List Char) :=
  match Text.trimStart cs with
  | '\x7d' :: '\x7d' :: r => some r
  | _ => none

/-- A name, the closing braces and what follows them. -/
def readName? : List Char → Option (List Char × List Char)
  | [] => none
  | c :: r =>
    if isNameStart c then
      (readClose? (r.dropWhile isNameChar)).map fun rest => (c :: r.takeWhile isNameChar, rest)
    else none

/-- The name in the reference at the front of a text, and what follows it. -/
def readReference? : List Char → Option (List Char × List Char)
  | '\x7b' :: '\x7b' :: r =>
    match Text.trimStart r with
    | 'e' :: 'n' :: 'v' :: '.' :: r => readName? r
    | _ => none
  | _ => none

theorem length_trimStart (cs : List Char) : (Text.trimStart cs).length ≤ cs.length :=
  (List.dropWhile_sublist _).length_le

theorem readClose?_length {cs r : List Char} (h : readClose? cs = some r) :
    r.length < cs.length := by
  have hl := length_trimStart cs
  unfold readClose? at h
  split at h
  · rename_i heq
    simp only [heq, Option.some.injEq] at h hl
    subst h
    simp only [List.length_cons] at hl
    omega
  · cases h

theorem readName?_length {cs name r : List Char} (h : readName? cs = some (name, r)) :
    r.length < cs.length := by
  cases cs with
  | nil => cases h
  | cons c cs =>
    simp only [readName?, Option.ite_none_right_eq_some, Option.map_eq_some_iff,
      Prod.mk.injEq] at h
    obtain ⟨-, r', hr, -, rfl⟩ := h
    have h1 := readClose?_length hr
    have h2 := (List.dropWhile_sublist isNameChar (l := cs)).length_le
    simp only [List.length_cons]
    omega

/-- A reference takes at least one character. -/
theorem readReference?_length {cs name r : List Char} (h : readReference? cs = some (name, r)) :
    r.length < cs.length := by
  unfold readReference? at h
  split at h
  · rename_i rest
    have hl := length_trimStart rest
    split at h
    · rename_i heq
      have h1 := readName?_length h
      simp only [heq, List.length_cons] at hl ⊢
      omega
    · cases h
  · cases h

/-- The pieces of a text, references taken as early as possible. -/
def pieces (cs : List Char) : List ReferencePiece :=
  match cs with
  | [] => []
  | c :: r =>
    match _h : readReference? (c :: r) with
    | some (name, rest) => .reference name :: pieces rest
    | none => .char c :: pieces r
termination_by cs.length
decreasing_by
  · exact readReference?_length (by assumption)
  · simp

/-- The names that a text refers to. -/
def referredNames (s : String) : List String :=
  (pieces s.toList).filterMap fun
    | .char _ => none
    | .reference name => some (String.ofList name)

/-- Whether a text has a reference. -/
def hasReference (s : String) : Bool := !(referredNames s).isEmpty

/-- The characters that a piece becomes. -/
def ReferencePiece.expand (env : Environment) : ReferencePiece → List Char
  | char c => [c]
  | reference name => ((env.get? (String.ofList name)).getD "").toList

/-- A text with its references replaced, or the names that are not set. -/
def resolve (env : Environment) (s : String) : Except (List String) String :=
  let unset := (referredNames s).filter fun n => !env.contains n
  if unset.isEmpty then .ok (String.ofList ((pieces s.toList).flatMap (ReferencePiece.expand env)))
  else .error unset

end PgRole.Credentials

namespace PgRole

open Credentials

namespace Profile

/-- Replaces the references of fields in order, up to the first field with a variable that is not
set; that field and its variables. -/
def resolveFields (env : Environment) :
    List Field → Profile → Profile × Option (Field × List String)
  | [], p => (p, none)
  | f :: fs, p =>
    match Credentials.resolve env (p.get f) with
    | .ok s => resolveFields env fs (p.set f s)
    | .error names => (p, some (f, names))

/-- Replaces the references of all fields. -/
def resolveAll (env : Environment) (p : Profile) : Profile × Option (Field × List String) :=
  resolveFields env fields p

end Profile

namespace Store

/-- The profile of a role with its references replaced. -/
def resolveEntry (env : Environment) (role : String) (p : Profile) : Except Fault Profile :=
  if p.hasPlaceholders then
    match p.resolveAll env with
    | (p, none) => .ok p
    | (_, some (field, names)) => .error (.unsetInRole role field names)
  else .ok p

/-- The store with all references replaced. -/
def resolveAll (env : Environment) (s : Store) : Except Fault Store :=
  s.traverse (resolveEntry env)

end Store

end PgRole
