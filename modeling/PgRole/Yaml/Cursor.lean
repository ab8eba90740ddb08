import PgRole.Text.Digits

/-!
# A place in a YAML text

A cursor is what is left of a text with the number of characters, lines and columns before it. Line
breaks are line feed, carriage return, both in a row, next line, and the line and paragraph
separators; the first four are read as a line feed.
-/

namespace PgRole.Yaml

/-- Whether a character ends a line. -/
def isBreak (c : Char) : Bool :=
  c == '\n' || c == '\r' || c == '\u0085' || c == '\u2028' || c == '\u2029'

/-- Whether a character is a space or a tab. -/
def isBlank (c : Char) : Bool := c == ' ' || c == '\t'

/-- Whether a word ends in front of characters: at a blank, a line break or the end. -/
def endsWord : List Char → Bool
  | [] => true
  | c :: _ => isBlank c || isBreak c

/-- Whether a line ends in front of characters. -/
def endsLine : List Char → Bool
  | [] => true
  | c :: _ => isBreak c

/-- Whether a character may stand in a YAML text. -/
def isAllowed (c : Char) : Bool :=
  let n := c.toNat
  n == 0x9 || n == 0xA || n == 0xD || (0x20 ≤ n && n ≤ 0x7E) || n == 0x85 ||
    (0xA0 ≤ n && n ≤ 0xFFFD) || 0x10000 ≤ n

/-- Whether a character may stand in the name of an anchor or a tag handle. -/
def isNameChar (c : Char) : Bool := c.isAlphanum || c == '_' || c == '-'

/-- Whether the markers of a document's start or end stand in front. -/
def startsMarker : List Char → Bool
  | '-' :: '-' :: '-' :: r => endsWord r
  | '.' :: '.' :: '.' :: r => endsWord r
  | _ => false

/-- What is left of a text, and where that is. -/
structure Cursor where
  rest : List Char
  index : Nat
  line : Nat
  column : Nat

namespace Cursor

/-- Steps over characters of a line. -/
def skip (c : Cursor) (n : Nat) : Cursor :=
  { c with rest := c.rest.drop n, index := c.index + n, column := c.column + n }

/-- Steps to a later place of the same line. -/
def skipTo (c : Cursor) (rest : List Char) : Cursor :=
  let n := c.rest.length - rest.length
  { c with rest := rest, index := c.index + n, column := c.column + n }

/-- Steps over the characters in front that a test holds of. -/
def skipWhile (c : Cursor) (p : Char → Bool) : Cursor := c.skipTo (c.rest.dropWhile p)

/-- Steps to the end of the line. -/
def skipLineRest (c : Cursor) : Cursor := c.skipWhile fun x => !isBreak x

/-- Steps over a line break, if there is one; what it is read as. -/
def takeBreak (c : Cursor) : List Char × Cursor :=
  let after (n : Nat) (r : List Char) : Cursor := ⟨r, c.index + n, c.line + 1, 0⟩
  match c.rest with
  | '\r' :: '\n' :: r => (['\n'], after 2 r)
  | '\u2028' :: r => (['\u2028'], after 1 r)
  | '\u2029' :: r => (['\u2029'], after 1 r)
  | x :: r => if isBreak x then (['\n'], after 1 r) else ([], c)
  | [] => ([], c)

/-- Steps over a line break, if there is one. -/
def skipBreak (c : Cursor) : Cursor := c.takeBreak.2

/-- Whether a marker of a document's start or end stands at the start of the line here. -/
def atMarker (c : Cursor) : Bool := c.column == 0 && startsMarker c.rest

/-- The end of a line that may have blanks and a comment before it; the start of the next. -/
def endLine? (c : Cursor) : Option Cursor :=
  let c := c.skipWhile isBlank
  let c := if c.rest.head? = some '#' then c.skipLineRest else c
  if endsLine c.rest then some c.skipBreak else none

end Cursor

end PgRole.Yaml
