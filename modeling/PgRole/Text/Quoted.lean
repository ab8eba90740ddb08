import PgRole.Text.Digits
import PgRole.Text.Printable

/-!
# Quoted text

The form in which an error message shows a text a caller gave: in double quotes, with a backslash
before quotes and backslashes, short escapes for NUL, tab, line feed and carriage return, and the
code point in braces for every other character that would not show as itself.
-/

namespace PgRole.Text

/-- A character as its code point in braces. -/
def codePointEscape (c : Char) : List Char := "\\u\x7b".toList ++ hexadecimal c.toNat ++ ['\x7d']

/-- A character as it stands inside a quoted text. -/
def escaped (c : Char) : List Char :=
  if c = '\x00' then ['\\', '0']
  else if c = '\t' then ['\\', 't']
  else if c = '\r' then ['\\', 'r']
  else if c = '\n' then ['\\', 'n']
  else if c = '\\' then ['\\', '\\']
  else if c = '"' then ['\\', '"']
  else if extendsGrapheme c then codePointEscape c
  else if isPrintable c then [c]
  else codePointEscape c

/-- A text in double quotes. -/
def quoted (s : String) : String := String.ofList ('"' :: s.toList.flatMap escaped ++ ['"'])

end PgRole.Text
