import PgRole.Json.Basic

/-!
# JSON text of a value

Two layouts: `compact`, without any space, is what a value is in messages and on the wire; `pretty`
breaks after every item and indents by two spaces. Strings escape the quote, the backslash and the
characters below U+0020, those with a short form by it.
-/

namespace PgRole.Json

/-- A character as it stands inside a JSON string. -/
def escaped (c : Char) : List Char :=
  if c = '"' then ['\\', '"']
  else if c = '\\' then ['\\', '\\']
  else if c = '\x08' then ['\\', 'b']
  else if c = '\x0c' then ['\\', 'f']
  else if c = '\n' then ['\\', 'n']
  else if c = '\r' then ['\\', 'r']
  else if c = '\t' then ['\\', 't']
  else if c < ' ' then '\\' :: 'u' :: Text.padZero 4 (Text.hexadecimal c.toNat)
  else [c]

/-- A text as a JSON string. -/
def stringText (s : String) : List Char := '"' :: s.toList.flatMap escaped ++ ['"']

mutual

/-- A value without any space. -/
def compact : Json → List Char
  | .null => "null".toList
  | .bool true => "true".toList
  | .bool false => "false".toList
  | .num n => n.text
  | .str s => stringText s
  | .arr items => '[' :: compactItems items ++ [']']
  | .obj fields => '\x7b' :: compactFields fields ++ ['\x7d']

/-- Items with commas between them. -/
def compactItems : List Json → List Char
  | [] => []
  | [j] => compact j
  | j :: r => compact j ++ ',' :: compactItems r

/-- Members with commas between them. -/
def compactFields : List (String × Json) → List Char
  | [] => []
  | [(k, j)] => stringText k ++ ':' :: compact j
  | (k, j) :: r => stringText k ++ ':' :: compact j ++ ',' :: compactFields r

end

/-- A line break and the indentation of a depth. -/
def newline (depth : Nat) : List Char := '\n' :: List.replicate (2 * depth) ' '

mutual

/-- A value with each item on a line of its own, at a depth. -/
def indented (depth : Nat) : Json → List Char
  | .arr [] => ['[', ']']
  | .arr items => '[' :: indentedItems (depth + 1) items ++ newline depth ++ [']']
  | .obj [] => ['\x7b', '\x7d']
  | .obj fields => '\x7b' :: indentedFields (depth + 1) fields ++ newline depth ++ ['\x7d']
  | .null => compact .null
  | .bool b => compact (.bool b)
  | .num n => compact (.num n)
  | .str s => compact (.str s)

/-- Items on lines of their own. -/
def indentedItems (depth : Nat) : List Json → List Char
  | [] => []
  | [j] => newline depth ++ indented depth j
  | j :: r => newline depth ++ indented depth j ++ ',' :: indentedItems depth r

/-- Members on lines of their own. -/
def indentedFields (depth : Nat) : List (String × Json) → List Char
  | [] => []
  | [(k, j)] => newline depth ++ stringText k ++ ':' :: ' ' :: indented depth j
  | (k, j) :: r =>
    newline depth ++ stringText k ++ ':' :: ' ' :: indented depth j ++ ',' ::
      indentedFields depth r

end

/-- The text of a value without any space. -/
def text (j : Json) : String := String.ofList j.compact

/-- The text of a value with each item on a line of its own. -/
def pretty (j : Json) : String := String.ofList (j.indented 0)

end PgRole.Json
