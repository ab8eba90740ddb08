import PgRole.Text.CharSet

/-!
# Letter case

Keywords are read in any case. Their letters are ASCII, and of the characters beyond ASCII only
the Kelvin sign has a small letter among them.
-/

namespace PgRole.Text

/-- The small letter of a character, where that is an ASCII letter. -/
def smallLetter (c : Char) : Char := if c = '\u212a' then 'k' else c.toLower

/-- A text in small letters. -/
def smallLetters (s : String) : String := String.ofList (s.toList.map smallLetter)

/-- A text whose ASCII letters are capitals. -/
def capitals (s : String) : String := String.ofList (s.toList.map Char.toUpper)

/-- A text whose ASCII letters are small. -/
def asciiSmall (s : String) : String := String.ofList (s.toList.map Char.toLower)

end PgRole.Text
