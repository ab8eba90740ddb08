import PgRole.Credentials.Reference
import PgRole.Text.Alphanumeric

/-!
# Variables from a file

A file of lines `NAME=value` completes the environment: it sets variables that are not set yet. A
value may be quoted, have escapes, and refer to variables; a quoted value may go on over lines. A
line that is malformed ends the reading, what was read before it counts.
-/

namespace PgRole.Credentials

namespace DotEnv

/-! ## Lines -/

/-- What a line is in the middle of. -/
inductive LineState where
  | plain
  | blank
  | escape
  | strong
  | strongEscape
  | weak
  | weakEscape
  | comment
  deriving DecidableEq, Repr

/-- The state after a character that may open a quote or an escape. -/
def LineState.opened (c : Char) : LineState :=
  if c = '\\' then .escape
  else if c = '"' then .weak
  else if c = '\'' then .strong
  else .plain

/-- The state after a character. -/
def LineState.next (c : Char) : LineState → LineState
  | plain =>
    if Text.isBlank c && c != '\n' && c != '\r' then .blank else opened c
  | blank => if c = '#' then .comment else opened c
  | escape => .plain
  | strong => if c = '\\' then .strongEscape else if c = '\'' then .plain else .strong
  | strongEscape => .strong
  | weak => if c = '\\' then .weakEscape else if c = '"' then .plain else .weak
  | weakEscape => .weak
  | comment => .comment

/-- The state at the end of a line or at a comment, and the characters before it. -/
def scanLine : LineState → List Char → LineState × List Char
  | s, [] => (s, [])
  | s, c :: r =>
    let s' := s.next c
    if s' = .comment then (.comment, [])
    else
      let (e, kept) := scanLine s' r
      (e, c :: kept)

/-- The lines of a text with their line feeds. -/
def physicalLines : List Char → List (List Char)
  | [] => []
  | c :: r =>
    if c = '\n' then [c] :: physicalLines r
    else
      match physicalLines r with
      | [] => [[c]]
      | l :: ls => (c :: l) :: ls

/-- A line without its line feed and the carriage return before it. -/
def withoutLineEnd (cs : List Char) : List Char :=
  match cs.reverse with
  | '\n' :: '\r' :: r => r.reverse
  | '\n' :: r => r.reverse
  | _ => cs

/-- Joins lines as long as one is in the middle of something; a text that ends there is
malformed, which is a missing line at the end. -/
def logicalLines : LineState → List Char → List (List Char) → List (Option (List Char))
  | s, _, [] => if s = .plain then [] else [none]
  | s, before, l :: ls =>
    if (Text.trimStart (before ++ l)).head? = some '#' then some [] :: logicalLines .plain [] ls
    else
      match scanLine s l with
      | (.comment, kept) => some (before ++ kept) :: logicalLines .plain [] ls
      | (.plain, _) => some (withoutLineEnd (before ++ l)) :: logicalLines .plain [] ls
      | (s, _) => logicalLines s (before ++ l) ls

/-! ## Values -/

/-- Where a value is up to. -/
inductive ValueMode where
  | plain
  | done
  | escape
  | strong
  | name
  | braces
  deriving DecidableEq, Repr

/-- A value being read: its mode, whether it is inside double quotes, the characters so far, and
the name of a variable so far, both in reverse. -/
structure ValueState where
  mode : ValueMode
  weak : Bool
  out : List Char
  name : List Char

/-- The value of a variable, empty if there is none. -/
abbrev Lookup := String → String

/-- Puts the value of the variable that was named behind what is there. -/
def ValueState.substitute (look : Lookup) (s : ValueState) : ValueState :=
  { s with out := (look (String.ofList s.name.reverse)).toList.reverse ++ s.out, name := [] }

/-- Takes a character of a value; `none` if it must not stand there. -/
def ValueState.step (look : Lookup) (s : ValueState) (c : Char) : Option ValueState :=
  match s.mode with
  | .done => if c = ' ' ∨ c = '\t' then some s else none
  | .escape =>
    if c = 'n' then some { s with mode := .plain, out := '\n' :: s.out }
    else if ['\\', '\'', '"', '$', ' '].contains c then
      some { s with mode := .plain, out := c :: s.out }
    else none
  | .strong =>
    if c = '\'' then some { s with mode := .plain } else some { s with out := c :: s.out }
  | .name =>
    if Text.isAlphanumeric c then some { s with name := c :: s.name }
    else if c = '\x7b' ∧ s.name = [] then some { s with mode := .braces }
    else
      let s := s.substitute look
      if c = '$' then some s else some { s with mode := .plain, out := c :: s.out }
  | .braces =>
    if c = '\x7d' then some { s.substitute look with mode := .plain }
    else some { s with name := c :: s.name }
  | .plain =>
    if c = '$' then some { s with mode := .name }
    else if s.weak then
      if c = '"' then some { s with weak := false }
      else if c = '\\' then some { s with mode := .escape }
      else some { s with out := c :: s.out }
    else if c = '\'' then some { s with mode := .strong }
    else if c = '"' then some { s with weak := true }
    else if c = '\\' then some { s with mode := .escape }
    else if c = ' ' ∨ c = '\t' then some { s with mode := .done }
    else some { s with out := c :: s.out }

/-- The value that was read, unless it ends inside quotes or braces. -/
def ValueState.finish (look : Lookup) (s : ValueState) : Option (List Char) :=
  if s.mode = .braces ∨ s.mode = .strong ∨ s.weak then none
  else some (s.substitute look).out.reverse

/-- The value of characters; a comment ends a value that is done. -/
def readValue (look : Lookup) : ValueState → List Char → Option (List Char)
  | s, [] => s.finish look
  | s, c :: r =>
    if s.mode = .done ∧ c = '#' then s.finish look
    else (s.step look c).bind fun s => readValue look s r

/-! ## Assignments -/

/-- Whether a character can stand in a name. -/
def isKeyChar (c : Char) : Bool := isNameChar c || c == '.'

/-- A name and what follows it and white space. -/
def readKey? : List Char → Option (List Char × List Char)
  | [] => none
  | c :: r =>
    if isNameStart c then
      some (c :: r.takeWhile isKeyChar, Text.trimStart (r.dropWhile isKeyChar))
    else none

/-- What follows an equals sign. -/
def readEquals? : List Char → Option (List Char)
  | '=' :: r => some r
  | _ => none

/-- The name of a line and what follows its equals sign; `export` may stand before the name. -/
def readTarget? (cs : List Char) : Option (List Char × List Char) := do
  let (key, r) ← readKey? cs
  match readEquals? r with
  | some r => pure (key, r)
  | none =>
    if key = "export".toList then
      let (key, r) ← readKey? r
      let r ← readEquals? r
      pure (key, r)
    else none

/-- What a line says: nothing, or a name and its value. -/
def readLine? (look : Lookup) (cs : List Char) : Option (Option (String × String)) :=
  match Text.trimStart (Text.trimEnd cs) with
  | [] => some none
  | '#' :: _ => some none
  | cs => do
    let (key, r) ← readTarget? cs
    let r := Text.trimStart r
    if r.isEmpty || r.head? = some '#' then pure (some (String.ofList key, ""))
    else
      let value ← readValue look ⟨.plain, false, [], []⟩ r
      pure (some (String.ofList key, String.ofList value))

/-- The environment completed by lines. A value sees the environment first and then the values
that the lines before it gave. -/
def load : Environment → Keyed String → List (Option (List Char)) → Environment
  | env, _, [] => env
  | env, _, none :: _ => env
  | env, given, some l :: ls =>
    match readLine? (fun n => ((env.get? n).or (given.get? n)).getD "") l with
    | none => env
    | some none => load env given ls
    | some (some (key, value)) =>
      load (if env.contains key then env else env.insert key value) (given.insert key value) ls

/-- The characters of a file without a byte order mark. -/
def withoutMark : List Char → List Char
  | '\ufeff' :: r => r
  | cs => cs

end DotEnv

/-- The environment completed by the text of a file, if there is one. A value with a null character
is completed like any other here; where it panics is said by `Environment.panicsOn`. -/
def Environment.completedBy (file : Option String) (env : Environment) : Environment :=
  match file with
  | none => env
  | some s => DotEnv.load env ∅ (DotEnv.logicalLines .plain []
      (DotEnv.physicalLines (DotEnv.withoutMark s.toList)))

/-- Whether setting the variables of a file panics: one that was not set gets a value with a null
character, which no variable can have. -/
def Environment.panicsOn (file : Option String) (env : Environment) : Bool :=
  (env.completedBy file).entries.any fun (name, value) =>
    !env.contains name && value.toList.contains '\x00'

end PgRole.Credentials
