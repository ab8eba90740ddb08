/-!
# Digits

Natural numbers as text in a base up to sixteen, most significant digit first and without leading
zeros, padded to a width where a format asks for one; and the way back. Letters are lower case when
written and of either case when read.
-/

namespace PgRole.Text

/-- The digit for a value below sixteen. -/
def digitChar (n : Nat) : Char := Char.ofNat (if n < 10 then 48 + n else 87 + n)

/-- The value of a decimal digit. -/
def digitVal? (c : Char) : Option Nat :=
  if '0' ≤ c ∧ c ≤ '9' then some (c.toNat - 48) else none

/-- The value of a hexadecimal digit of either case. -/
def hexVal? (c : Char) : Option Nat :=
  if '0' ≤ c ∧ c ≤ '9' then some (c.toNat - 48)
  else if 'a' ≤ c ∧ c ≤ 'f' then some (c.toNat - 87)
  else if 'A' ≤ c ∧ c ≤ 'F' then some (c.toNat - 55)
  else none

/-- Whether a character is one of `0` to `9`. -/
def isDigit (c : Char) : Bool := (digitVal? c).isSome

/-- The digits of a number in a base of two or more, in front of those already written. -/
def digitsOnto (base : Nat) (h : 2 ≤ base) (n : Nat) (acc : List Char) : List Char :=
  if n < base then digitChar n :: acc
  else digitsOnto base h (n / base) (digitChar (n % base) :: acc)
termination_by n
decreasing_by exact Nat.div_lt_self (by omega) h

/-- The decimal digits of a number, `0` for zero. -/
def decimal (n : Nat) : List Char := digitsOnto 10 (by decide) n []

/-- The hexadecimal digits of a number, `0` for zero. -/
def hexadecimal (n : Nat) : List Char := digitsOnto 16 (by decide) n []

/-- Zeros in front, up to a width. -/
def padZero (width : Nat) (cs : List Char) : List Char :=
  List.replicate (width - cs.length) '0' ++ cs

/-- A number with at least so many decimal digits. -/
def decimalPadded (width n : Nat) : List Char := padZero width (decimal n)

/-- A number as text. -/
def natText (n : Nat) : String := String.ofList (decimal n)

/-- An integer as text, the sign only if negative. -/
def intText : Int → String
  | .ofNat n => natText n
  | .negSucc n => String.ofList ('-' :: decimal (n + 1))

/-- The value of a list of decimal digits, most significant first; other characters count as
zero. -/
def valueOf (cs : List Char) : Nat := cs.foldl (fun n c => 10 * n + (digitVal? c).getD 0) 0

/-- The value of a text that is one or more decimal digits. -/
def readNat? (cs : List Char) : Option Nat :=
  if !cs.isEmpty && cs.all isDigit then some (valueOf cs) else none

/-- The value of one or more digits of a base, under the reading of one digit. -/
def readBase? (digit? : Char → Option Nat) (base : Nat) (cs : List Char) : Option Nat :=
  if cs.isEmpty then none
  else cs.foldl (fun acc c => do
    let n ← acc
    let d ← digit? c
    if d < base then some (base * n + d) else none) (some 0)

/-- An integer with an optional sign in front of one or more decimal digits. -/
def readInt? : List Char → Option Int
  | '-' :: cs => (readNat? cs).map fun n => -(n : Int)
  | '+' :: cs => (readNat? cs).map fun n => (n : Int)
  | cs => (readNat? cs).map fun n => (n : Int)

example : natText 0 = "0" := by decide +kernel
example : intText (-120) = "-120" := by decide +kernel
example : decimalPadded 4 7 = ['0', '0', '0', '7'] := by decide +kernel
example : readInt? ['+', '1', '2'] = some 12 := by decide
example : readInt? ['1', '_', '2'] = none := by decide
example : readBase? hexVal? 16 ['f', 'F'] = some 255 := by decide

end PgRole.Text
