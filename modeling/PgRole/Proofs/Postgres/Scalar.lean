import Mathlib.Algebra.Order.Ring.Int
import PgRole.Postgres.Binary
import PgRole.Proofs.Calendar.Pattern
import PgRole.Proofs.Decimal
import PgRole.Proofs.Float
import PgRole.Proofs.Uuid

/-!
# Values read back from JSON

A value that octets decode to, shown as JSON and read again for the same type, is the value
(`Scalar.ofJson_toJson`). Floats have to be finite, since JSON has no other; a decimal may have as
many places as a text can give; an instant has to lie in a year of four digits.
-/

namespace PgRole.Postgres

open Conversion

namespace Scalar

/-- The values of which JSON keeps all. -/
def Portable : (s : Scalar) → s.Value → Prop
  | .float4, x => x.isFinite
  | .float8, x => x.isFinite
  | .numeric, d => d.scale ≤ Decimal.maxScale
  | .timestamptz, m => 0 ≤ m.date.year ∧ m.date.year ≤ 9999
  | _, _ => True

/-- Values that are the same: decimals by value and places, all others by all they are. -/
def Same : (s : Scalar) → s.Value → s.Value → Prop
  | .numeric, d, e => d.Same e
  | _, v, w => v = w

/-! ## Numbers -/

/-- An integer that fits is taken as it is. -/
theorem int64?_int {i : Int} (hrange : Json.minInt ≤ i ∧ i ≤ Json.maxInt) (h : i < 2 ^ 63) :
    int64? (.int i hrange) = some i := by
  rw [int64?, Json.Number.toInt64?, if_pos h]
  exact congrArg some (Int64.toInt_ofInt_of_le hrange.1 h)

/-- A word of at most 64 bits is read back from its integer. -/
theorem integerWithin_integer {α : Type} {bits : Nat} {i : Int} {ofInt : Int → α} {v : α}
    (hbits : bits ≤ 64) (hleast : -2 ^ (bits - 1) ≤ i) (hgreatest : i < 2 ^ (bits - 1))
    (hv : ofInt i = v) :
    ofInt <$> integerWithin bits (integer i) = .ok v ∧ (integer i).isNull = false := by
  have hwide : (2 : Int) ^ (bits - 1) ≤ 2 ^ 63 := pow_le_pow_right₀ (by decide) (by omega)
  have hrange : Json.minInt ≤ i ∧ i ≤ Json.maxInt := by
    unfold Json.minInt Json.maxInt
    omega
  have hnumber : integer i = .num (.int i hrange) := by
    rw [integer, Json.Number.ofInt?, dif_pos hrange]
    rfl
  have hint : Conversion.integer (integer i) = .ok i := by
    rw [hnumber, Conversion.integer, int64?_int hrange (by omega)]
    rfl
  have hwithin : integerWithin bits (integer i) = .ok i := by
    rw [integerWithin, hint]
    exact if_pos ⟨hleast, hgreatest⟩
  refine ⟨?_, by rw [hnumber]; rfl⟩
  rw [hwithin, ← hv]
  rfl

/-- A finite float is read back bit by bit. -/
theorem float_float {x : Binary64} (h : x.isFinite) :
    Conversion.float (float x) = .ok x ∧ (float x).isNull = false := by
  have hnumber : float x = .num (.float x h) := by
    rw [float, Json.Number.ofFloat?, dif_pos h]
    rfl
  rw [hnumber]
  exact ⟨rfl, rfl⟩

/-! ## Texts -/

/-- A text without blanks at its ends converts to what it is read as. -/
theorem fromText_str {α : Type} {what : String} {noun : Noun} {read : List Char → Option α}
    {cs : List Char} {v : α} (htrim : Text.trimEnd (Text.trimStart cs) = cs)
    (hread : read cs = some v) :
    fromText what noun read (.str (String.ofList cs)) = .ok v := by
  have htext : Text.trim (String.ofList cs) = String.ofList cs := by
    rw [Text.trim, String.toList_ofList, htrim]
  unfold fromText
  dsimp only
  rw [htext, String.toList_ofList, hread]
  rfl

/-- The text of a decimal converts to one with the same value, up to the places that a text can
give. -/
theorem decimal_text {d : Decimal} (h : d.scale ≤ Decimal.maxScale) :
    ∃ e, decimal (.str d.text) = .ok e ∧ e.Same d := by
  obtain ⟨e, hread, hsame⟩ := d.read?_text h
  refine ⟨e, ?_, hsame⟩
  unfold decimal
  dsimp only
  rw [Text.trim_eq_self d.isBlank_of_mem_text, hread]
  rfl

theorem uuid_text (u : Uuid) : fromText "uuid" .uuid Uuid.ofChars? (.str u.text) = .ok u :=
  fromText_str (Text.trimEnd_trimStart_eq_self u.isBlank_of_mem_chars) u.ofChars?_chars

theorem date_text (d : Calendar.Date) :
    fromText "date" .date Calendar.date? (.str d.text) = .ok d :=
  fromText_str (Text.trimEnd_trimStart_eq_self d.isBlank_of_mem_chars) (Calendar.date?_chars d)

theorem time_text (t : Calendar.Time) :
    fromText "time" .time Calendar.time? (.str t.text) = .ok t :=
  fromText_str (Text.trimEnd_trimStart_eq_self t.isBlank_of_mem_chars) (Calendar.time?_chars t)

theorem moment_text (m : Calendar.Moment) :
    fromText "timestamp" .timestamp Calendar.moment? (.str m.text) = .ok m := by
  have htrim := m.trim_charsWith ' ' [] (by simp)
  rw [List.append_nil] at htrim
  exact fromText_str htrim (Calendar.moment?_chars m)

/-- The text of an instant converts to it, in the years that have four digits. -/
theorem instant_text {m : Calendar.Moment} (hyear : 0 ≤ m.date.year ∧ m.date.year ≤ 9999)
    (hdays : Calendar.Date.ofDays? m.date.toDays = some m.date) :
    fromText "timestamp" .timestamp Calendar.instant? (.str m.instantText) = .ok m := by
  have hoffset : "+00:00".toList.all fun c => !Text.isBlank c := by decide
  have hblank : ∀ c ∈ "+00:00".toList, Text.isBlank c = false := by simpa using hoffset
  exact fromText_str (m.trim_charsWith 'T' "+00:00".toList hblank)
    (Calendar.instant?_chars hyear hdays)

/-- The date of a moment that octets give is found again from its days. -/
theorem ofDays?_of_ofMicros? {n : Int} {m : Calendar.Moment}
    (h : Calendar.Moment.ofMicros? n = some m) :
    Calendar.Date.ofDays? m.date.toDays = some m.date := by
  obtain ⟨d, hd, rfl⟩ := Option.map_eq_some_iff.1 h
  rw [Calendar.Date.toDays_of_ofDays? hd]
  exact hd

/-! ## Values -/

/-- A value that octets decode to is read back from its JSON, which is not null. -/
theorem ofJson_toJson (s : Scalar) {bs : Bytes} {v : s.Value} (hv : s.decode bs = .ok v)
    (hportable : s.Portable v) :
    ∃ w, s.ofJson (s.toJson v) = .ok w ∧ s.Same w v ∧ (s.toJson v).isNull = false := by
  cases s with
  | bool => exact ⟨v, rfl, rfl, rfl⟩
  | int2 =>
    obtain ⟨hread, hnull⟩ := integerWithin_integer (by decide : 16 ≤ 64) (Int16.le_toInt v)
      (Int16.toInt_lt v) (Int16.ofInt_toInt v)
    exact ⟨v, hread, rfl, hnull⟩
  | int4 =>
    obtain ⟨hread, hnull⟩ := integerWithin_integer (by decide : 32 ≤ 64) (Int32.le_toInt v)
      (Int32.toInt_lt v) (Int32.ofInt_toInt v)
    exact ⟨v, hread, rfl, hnull⟩
  | int8 =>
    obtain ⟨hread, hnull⟩ := integerWithin_integer (by decide : 64 ≤ 64) (Int64.le_toInt v)
      (Int64.toInt_lt v) (Int64.ofInt_toInt v)
    exact ⟨v, hread, rfl, hnull⟩
  | float4 =>
    -- a single is shown as a double, which is exact and comes back
    obtain ⟨hdouble, hback⟩ := Binary.convert_convert hportable
    obtain ⟨hread, hnull⟩ := float_float hdouble
    refine ⟨v, ?_, rfl, hnull⟩
    rw [toJson, ofJson, hread]
    exact congrArg Except.ok hback
  | float8 =>
    obtain ⟨hread, hnull⟩ := float_float hportable
    exact ⟨v, hread, rfl, hnull⟩
  | numeric =>
    obtain ⟨w, hread, hsame⟩ := decimal_text hportable
    exact ⟨w, hread, hsame, rfl⟩
  | text => exact ⟨v, rfl, rfl, rfl⟩
  | uuid => exact ⟨v, uuid_text v, rfl, rfl⟩
  | date => exact ⟨v, date_text v, rfl, rfl⟩
  | time => exact ⟨v, time_text v, rfl, rfl⟩
  | timestamp => exact ⟨v, moment_text v, rfl, rfl⟩
  | timestamptz =>
    -- what was decoded is an instant that has a date
    obtain ⟨n, -, hn⟩ := Option.bind_eq_some_iff.1 (Attempt.orPanic_eq_ok_iff.1 hv)
    have hread := instant_text hportable (ofDays?_of_ofMicros? hn)
    exact ⟨v, hread, rfl, rfl⟩

end Scalar

end PgRole.Postgres
