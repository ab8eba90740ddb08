import PgRole.Text.CharSet

/-!
# White space

The characters with the property `White_Space`, and texts without it at their ends. `trim` is
used wherever a value is read leniently: port numbers, booleans, numbers, dates, operators.
-/

namespace PgRole.Text

/-- The characters with the property `White_Space`. -/
def blanks : CharSet where
  ranges := [(0x9, 0xD), (0x20, 0x20), (0x85, 0x85), (0xA0, 0xA0), (0x1680, 0x1680),
    (0x2000, 0x200A), (0x2028, 0x2029), (0x202F, 0x202F), (0x205F, 0x205F), (0x3000, 0x3000)]

/-- Whether a character is white space. -/
def isBlank (c : Char) : Bool := blanks.contains c

/-- The characters from the first that is not white space on. -/
def trimStart (cs : List Char) : List Char := cs.dropWhile isBlank

/-- The characters up to the last that is not white space. -/
def trimEnd (cs : List Char) : List Char := (cs.reverse.dropWhile isBlank).reverse

/-- A text without white space at its ends. -/
def trim (s : String) : String := String.ofList (trimEnd (trimStart s.toList))

/-- Whether a text is empty or white space only. -/
def allBlank (s : String) : Bool := s.toList.all isBlank

theorem trimStart_eq_self {cs : List Char} (h : ∀ c ∈ cs.head?, isBlank c = false) :
    trimStart cs = cs := by
  cases cs with
  | nil => rfl
  | cons c r => simp [trimStart, h c (by simp)]

end PgRole.Text
