import PgRole.Bytes

/-!
# Universally unique identifiers

Sixteen octets, written as 32 lower-case hexadecimal digits in five groups. A text is read without
hyphens, with them, and with them in braces or after `urn:uuid:`; digits and letters count in either
case.
-/

namespace PgRole

/-- Sixteen octets. -/
structure Uuid where
  bytes : Bytes
  size : bytes.length = 16
  deriving DecidableEq

namespace Uuid

/-- The identifier of octets, if there are sixteen. -/
def ofBytes? (bs : Bytes) : Option Uuid := if h : bs.length = 16 then some ⟨bs, h⟩ else none

/-- The identifier of 32 hexadecimal digits. -/
def ofDigits? (cs : List Char) : Option Uuid := (Bytes.ofHex? cs).bind ofBytes?

/-- Digits in five groups. -/
def grouped (cs : List Char) : List Char :=
  cs.take 8 ++ '-' :: (cs.drop 8).take 4 ++ '-' :: (cs.drop 12).take 4 ++
    '-' :: (cs.drop 16).take 4 ++ '-' :: cs.drop 20

/-- The digits of five groups. -/
def ungrouped (cs : List Char) : List Char :=
  cs.take 8 ++ (cs.drop 9).take 4 ++ (cs.drop 14).take 4 ++ (cs.drop 19).take 4 ++ cs.drop 24

/-- The identifier of five groups of digits. -/
def ofGroups? (cs : List Char) : Option Uuid :=
  let ds := ungrouped cs
  if grouped ds = cs then ofDigits? ds else none

/-- The identifier of characters. -/
def ofChars? (cs : List Char) : Option Uuid :=
  if cs.length = 32 then ofDigits? cs
  else if cs.length = 36 then ofGroups? cs
  else if cs.length = 38 then
    match cs with
    | '\x7b' :: r => if r.getLast? = some '\x7d' then ofGroups? r.dropLast else none
    | _ => none
  else if cs.length = 45 then
    if (cs.take 9).map Char.toLower = "urn:uuid:".toList then ofGroups? (cs.drop 9) else none
  else none

/-- The identifier of a text. -/
def ofText? (s : String) : Option Uuid := ofChars? s.toList

/-- The characters of an identifier. -/
def chars (u : Uuid) : List Char := grouped (Bytes.toHex u.bytes)

/-- The text of an identifier. -/
def text (u : Uuid) : String := String.ofList u.chars

example : (ofText? "\x7b550E8400-e29b-41d4-a716-446655440000\x7d").map text =
    some "550e8400-e29b-41d4-a716-446655440000" := by decide +kernel
example : ofText? "550e8400-e29b-41d4-a716-44665544000" = none := by decide +kernel

end Uuid

end PgRole
