import PgRole.Power
import PgRole.Text.Digits

/-!
# Byte strings

The octets that travel between a connector and its server: big-endian integers in unsigned and
two's complement form, UTF-8 text and hexadecimal text. A reader takes octets off the front and
leaves the rest, or says that there are too few.
-/

namespace PgRole

/-- Octets in the order in which they are sent. -/
abbrev Bytes := List UInt8

namespace Bytes

/-- The number that octets denote, most significant first. -/
def toNat (bs : Bytes) : Nat := bs.foldl (fun n b => 256 * n + b.toNat) 0

/-- The last `width` octets of a number, most significant first. -/
def ofNat : Nat → Nat → Bytes
  | 0, _ => []
  | width + 1, n => UInt8.ofNat (n / 256 ^ width) :: ofNat width n

/-- The integer that octets denote in two's complement. -/
def toInt (bs : Bytes) : Int := (bs.toNat : Int).bmod (256 ^ bs.length)

/-- An integer in two's complement of `width` octets. -/
def ofInt (width : Nat) (i : Int) : Bytes := ofNat width (i.emod (256 ^ width : Nat)).toNat

/-- The first `n` octets and those after them. -/
def take? (n : Nat) (bs : Bytes) : Option (Bytes × Bytes) :=
  if n ≤ bs.length then some (bs.splitAt n) else none

/-- An unsigned integer of so many octets off the front. -/
def takeNat? (width : Nat) (bs : Bytes) : Option (Nat × Bytes) :=
  (take? width bs).map fun (a, r) => (a.toNat, r)

/-- A two's complement integer of so many octets off the front. -/
def takeInt? (width : Nat) (bs : Bytes) : Option (Int × Bytes) :=
  (take? width bs).map fun (a, r) => (a.toInt, r)

/-- The UTF-8 form of a text. -/
def ofText (s : String) : Bytes := s.toUTF8.data.toList

/-- The text whose UTF-8 form the octets are. -/
def text? (bs : Bytes) : Option String := String.fromUTF8? ⟨bs.toArray⟩

/-- Two lower-case hexadecimal digits for each octet. -/
def toHex (bs : Bytes) : List Char :=
  bs.flatMap fun b => [Text.digitChar (b.toNat / 16), Text.digitChar (b.toNat % 16)]

/-- The octets that pairs of hexadecimal digits denote. -/
def ofHex? : List Char → Option Bytes
  | [] => some []
  | [_] => none
  | a :: b :: r => do
    let x ← Text.hexVal? a
    let y ← Text.hexVal? b
    let bs ← ofHex? r
    pure (UInt8.ofNat (16 * x + y) :: bs)

example : toHex [0, 255, 10] = ['0', '0', 'f', 'f', '0', 'a'] := by decide
example : ofInt 2 (-2) = [255, 254] := by decide
example : toInt [255, 254] = -2 := by decide

end Bytes

end PgRole
