import PgRole.Keyed
import PgRole.Sql.Bound

/-!
# Named placeholders

A statement text may name its parameters: `%(id)s` stands for the value of `id`, and `%%` for a
percent sign. `compile` numbers the names in the order of their first appearance and gives each
name one argument, however often it occurs. Names and values have to match exactly; without values
a text is passed as it stands and must not have a placeholder.

* `Piece.flatMap_text_all`: the pieces of a text are the text.
-/

namespace PgRole.Sql

/-- The values of named placeholders. -/
abbrev Params := Keyed Json

/-- A piece of a text: a character, a doubled percent sign, a placeholder in parentheses with the
letter after it, a parenthesis that is never closed, a percent sign with a letter, or a percent
sign alone. -/
inductive Piece where
  | char (c : Char)
  | percent
  | placeholder (name : List Char) (format : Option Char)
  | unterminated (name : List Char)
  | letter (c : Char)
  | stray
  deriving DecidableEq, Repr

namespace Piece

/-- The characters of a piece as it stands in the text. -/
def text : Piece → List Char
  | char c => [c]
  | percent => ['%', '%']
  | placeholder name format => '%' :: '(' :: name ++ ')' :: format.toList
  | unterminated name => '%' :: '(' :: name
  | letter c => ['%', c]
  | stray => ['%']

/-- The name of a placeholder. -/
def name? : Piece → Option String
  | placeholder name _ => some (String.ofList name)
  | _ => none

/-- Splits a text, either outside of parentheses or inside them after the characters of a name in
reverse. -/
def split : Option (List Char) → List Char → List Piece
  | none, [] => []
  | none, '%' :: '%' :: r => .percent :: split none r
  | none, '%' :: '(' :: r => split (some []) r
  | none, '%' :: c :: r =>
    if c.isAlpha then .letter c :: split none r else .stray :: split none (c :: r)
  | none, ['%'] => [.stray]
  | none, c :: r => .char c :: split none r
  | some name, [] => [.unterminated name.reverse]
  | some name, ')' :: c :: r =>
    if c.isAlpha then .placeholder name.reverse (some c) :: split none r
    else .placeholder name.reverse none :: split none (c :: r)
  | some name, [')'] => [.placeholder name.reverse none]
  | some name, c :: r => split (some (c :: name)) r

/-- The pieces of a text. -/
def all (cs : List Char) : List Piece := split none cs

theorem flatMap_text_split (inside : Option (List Char)) (cs : List Char) :
    (split inside cs).flatMap text =
      (match inside with
        | none => []
        | some name => '%' :: '(' :: name.reverse) ++ cs := by
  fun_induction split inside cs <;> simp_all [text]

/-- The pieces of a text are the text. -/
theorem flatMap_text_all (cs : List Char) : (all cs).flatMap text = cs := by
  simp [all, flatMap_text_split]

/-- How many octets a piece takes. -/
def size (p : Piece) : Nat := (String.ofList p.text).utf8ByteSize

/-- Pieces with the octets before each. -/
def located (start : Nat) : List Piece → List (Nat × Piece)
  | [] => []
  | p :: r => (start, p) :: located (start + p.size) r

end Piece

/-- Why a text does not compile. -/
inductive Placeholder.Fault where
  | withoutParams (name : String)
  | unterminated (name : String) (start : Nat)
  | emptyName (start : Nat)
  | badFormat (name : String)
  | missing (name : String)
  | positional (letter : Char)
  | unsupported (letter : Char)
  | stray (start : Nat)
  | unused (names : List String)
  deriving DecidableEq, Repr

namespace Placeholder

/-- The letters a placeholder may end in. -/
def formats : List Char := ['s', 'b', 't']

/-- The message of a fault. -/
def Fault.message : Fault → String
  | withoutParams name =>
    "statement references placeholder '%(" ++ name ++ ")s' but no params were given"
  | unterminated name start =>
    "unterminated placeholder '%(" ++ name ++ "' at byte " ++ Text.natText start
  | emptyName start => "empty placeholder name at byte " ++ Text.natText start
  | badFormat name => "placeholder '%(" ++ name ++ ")' must be followed by 's', 'b' or 't'"
  | missing name => "placeholder '%(" ++ name ++ ")s' has no matching param"
  | positional letter =>
    "positional placeholder '%" ++ letter.toString ++ "' cannot be used with named params"
  | unsupported letter => "unsupported placeholder '%" ++ letter.toString ++ "'"
  | stray start =>
    "stray '%' at byte " ++ Text.natText start ++ "; use '%%' for a literal percent sign"
  | unused names => "params not referenced by any placeholder: " ++ ", ".intercalate names

/-- The error of a fault. -/
def Fault.error (f : Fault) : Error := .invalidArgument f.message

/-- What is wrong with a piece of a text that has values for its names. -/
def fault? (params : Params) (start : Nat) : Piece → Option Fault
  | .char _ | .percent => none
  | .unterminated name => some (.unterminated (String.ofList name) start)
  | .placeholder name format =>
    if name = [] then some (.emptyName start)
    else if format.all fun c => !formats.contains c then some (.badFormat (String.ofList name))
    else if params.contains (String.ofList name) then none
    else some (.missing (String.ofList name))
  | .letter c => some (if formats.contains c then .positional c else .unsupported c)
  | .stray => some (.stray start)

/-- The names of placeholders, each at its first appearance. -/
def names (ps : List Piece) : List String := (ps.filterMap Piece.name?).eraseDups

/-- What a piece becomes when the names are numbered. -/
def compiled (names : List String) : Piece → List Char
  | .percent => ['%']
  | .placeholder name _ => paramText (names.idxOf (String.ofList name) + 1)
  | p => p.text

/-- Compiles a text with values for its names. -/
def compileNamed (sql : String) (params : Params) : Except Fault Bound :=
  let ps := Piece.all sql.toList
  match (Piece.located 0 ps).findSome? fun (start, p) => fault? params start p with
  | some f => .error f
  | none =>
    let ns := names ps
    let unused := params.keys.filter fun k => !ns.contains k
    if unused.isEmpty then
      .ok ⟨String.ofList (ps.flatMap (compiled ns)), ns.filterMap params.get?⟩
    else .error (.unused unused)

/-- The first name in closed parentheses. -/
def firstName? (ps : List Piece) : Option String := ps.findSome? Piece.name?

/-- Passes a text without values, unless it has a placeholder. -/
def compilePlain (sql : String) : Except Fault Bound :=
  match firstName? (Piece.all sql.toList) with
  | some name => .error (.withoutParams name)
  | none => .ok ⟨sql, []⟩

end Placeholder

/-- Compiles a text with the values of its placeholders; no values at all is the same as an empty
table of them. -/
def compile (sql : String) (params : Option Params) : Except Placeholder.Fault Bound :=
  match params with
  | some ps => if ps.isEmpty then Placeholder.compilePlain sql else Placeholder.compileNamed sql ps
  | none => Placeholder.compilePlain sql

end PgRole.Sql
