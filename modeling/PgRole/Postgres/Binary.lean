import PgRole.Interval
import PgRole.Postgres.Conversion
import PgRole.Postgres.Numeric

/-!
# Binary forms of values

What the octets of a scalar are, both ways. Octets after those that a value needs are passed over,
except in texts and identifiers, which take all. A list has one dimension, and may have none if it
is empty. What is not of this form is refused, but where a value needs more octets than there are,
and where the octets of a date or a time are beyond all dates, reading panics.
-/

namespace PgRole.Postgres

open Attempt

namespace Scalar

/-- The octets of a float of a format. -/
def floatBytes {f : Format} (width : Nat) (x : Binary f) : Bytes := Bytes.ofNat width x.bits.toNat

/-- The octets of a value. -/
def encode : (s : Scalar) → s.Value → Bytes
  | bool, b => [if b then 1 else 0]
  | int2, i => Bytes.ofInt 2 i.toInt
  | int4, i => Bytes.ofInt 4 i.toInt
  | int8, i => Bytes.ofInt 8 i.toInt
  | float4, x => floatBytes 4 x
  | float8, x => floatBytes 8 x
  | numeric, d => Numeric.encode d
  | text, s => Bytes.ofText s
  | uuid, u => u.bytes
  | date, d => Bytes.ofInt 4 d.toDays
  | time, t => Bytes.ofInt 8 (t.toNanos / 1000 : Nat)
  | timestamp, m => Bytes.ofInt 8 m.toMicros
  | timestamptz, m => Bytes.ofInt 8 m.toMicros

/-- The integer of the first octets. -/
def int? (width : Nat) (bs : Bytes) : Option Int := (Bytes.takeInt? width bs).map (·.1)

/-- The natural number of the first octets. -/
def nat? (width : Nat) (bs : Bytes) : Option Nat := (Bytes.takeNat? width bs).map (·.1)

/-- The value of octets. -/
def decode : (s : Scalar) → Bytes → Reading s.Value
  | bool, bs => orPanic (bs.head?.map (· != 0))
  | int2, bs => orPanic ((int? 2 bs).map Int16.ofInt)
  | int4, bs => orPanic ((int? 4 bs).map Int32.ofInt)
  | int8, bs => orPanic ((int? 8 bs).map Int64.ofInt)
  | float4, bs => orPanic ((nat? 4 bs).map Binary.ofBits)
  | float8, bs => orPanic ((nat? 8 bs).map Binary.ofBits)
  | numeric, bs => Numeric.decode bs
  | text, bs => orRefuse (Bytes.text? bs)
  | uuid, bs => orRefuse (Uuid.ofBytes? bs)
  | date, bs => orPanic ((int? 4 bs).bind Calendar.Date.ofDays?)
  | time, bs => orPanic ((int? 8 bs).map Calendar.Time.ofMicros)
  | timestamp, bs => orPanic ((int? 8 bs).bind Calendar.Moment.ofMicros?)
  | timestamptz, bs => orPanic ((int? 8 bs).bind Calendar.Moment.ofMicros?)

end Scalar

/-- Reads so many elements of a list, each a length and octets; a negative length of one is null. -/
def readElements {α : Type} (read : Bytes → Reading α) : Nat → Bytes → Reading (List (Option α))
  | 0, _ => .ok []
  | n + 1, bs => do
    let (size, bs) ← orPanic (Bytes.takeInt? 4 bs)
    if size = -1 then
      let r ← readElements read n bs
      pure (none :: r)
    else if size < 0 then .error .panic
    else
      let (cell, bs) ← orPanic (Bytes.take? size.toNat bs)
      let v ← read cell
      let r ← readElements read n bs
      pure (some v :: r)

/-- The elements of a list by the number of their type. -/
def readList {α : Type} (read : Nat → Bytes → Reading α) (bs : Bytes) :
    Reading (List (Option α)) := do
  let (dimensions, bs) ← orPanic (Bytes.takeInt? 4 bs)
  if dimensions = 0 then pure []
  else if dimensions ≠ 1 then .error (.error ())
  else
    let (_, bs) ← orPanic (Bytes.takeInt? 4 bs)
    let (oid, bs) ← orPanic (Bytes.takeNat? 4 bs)
    let (size, bs) ← orPanic (Bytes.takeInt? 4 bs)
    let (lower, bs) ← orPanic (Bytes.takeInt? 4 bs)
    if lower ≠ 1 then .error (.error ())
    else if size < 0 then .error .panic
    else readElements (read oid) size.toNat bs

/-- An element of a list with its length. -/
def elementBytes : Option Bytes → Bytes
  | none => Bytes.ofInt 4 (-1)
  | some bs => Bytes.ofNat 4 bs.length ++ bs

/-- A list of elements of a type. -/
def listBytes (oid : Nat) (items : List (Option Bytes)) : Bytes :=
  Bytes.ofNat 4 1 ++ Bytes.ofNat 4 0 ++ Bytes.ofNat 4 oid ++ Bytes.ofNat 4 items.length ++
    Bytes.ofNat 4 1 ++ items.flatMap elementBytes

namespace Param

/-- The octet in front of a JSON text: a space for plain JSON, a version for all else. -/
def jsonMark (t : Option SqlType) : UInt8 :=
  match t with
  | some (.plain "JSON") | some (.plain "JSON[]") => 0x20
  | _ => 1

/-- The octets of a parameter for a type; none for null. -/
def encode (t : Option SqlType) : Param → Option Bytes
  | null => none
  | scalar s v => some (s.encode v)
  | list s vs => some (listBytes s.oid (vs.map fun v => v.map s.encode))
  | bytes bs => some bs
  | json j => some (jsonMark t :: Bytes.ofText j.text)
  | label _ s => some (Bytes.ofText s)

/-- The octets of parameters, each for the type at its place. -/
def encodeAll : List SqlType → List Param → List (Option Bytes)
  | _, [] => []
  | ts, p :: r => p.encode ts.head? :: encodeAll ts.tail r

end Param

end PgRole.Postgres
