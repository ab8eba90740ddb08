import Mathlib.Data.String.Basic
import Mathlib.Tactic.ByContra
import Mathlib.Tactic.SplitIfs
import PgRole.Bytes

/-!
# The order of texts by octet

Texts are compared by their code points. Their UTF-8 forms are in the same order by octet
(`Bytes.ofText_lt_iff`), for the form of a character is less than that of a greater one in an octet
that both have, so that what follows the two does not count.
-/

namespace PgRole.Bytes

theorem ofText_eq_flatMap (s : String) : ofText s = s.toList.flatMap String.utf8EncodeChar := by
  rw [ofText, String.toUTF8_eq_toByteArray, ← String.utf8Encode_toList, List.utf8Encode,
    List.data_toByteArray]

/-- Characters are ordered as their octets, whatever stands behind these: they differ before the
shorter ends. -/
theorem utf8EncodeChar_append_lt {a b : Char} (h : a < b) (x y : Bytes) :
    String.utf8EncodeChar a ++ x < String.utf8EncodeChar b ++ y := by
  have hlt : a.val.toNat < b.val.toNat := h
  have hmax : b.val.toNat < 0x110000 := by
    have := b.valid
    simp only [UInt32.isValidChar, Nat.isValidChar] at this
    omega
  -- a longer form has a greater first octet; forms of one length are compared six bits at a time
  unfold String.utf8EncodeChar
  dsimp only
  split_ifs <;> simp (disch := omega) only [List.cons_append, List.nil_append,
    List.cons_lt_cons_iff, UInt8.lt_iff_toNat_lt, ← UInt8.toNat_inj, UInt8.toNat_ofNat',
    Nat.reducePow, Nat.mod_eq_of_lt] <;> omega

/-- Texts are ordered at the first character that differs, and so are their octets. -/
theorem flatMap_lt_of_lt {cs ds : List Char} (h : cs < ds) :
    cs.flatMap String.utf8EncodeChar < ds.flatMap String.utf8EncodeChar := by
  induction h with
  | @nil d ds =>
    rw [List.flatMap_nil, List.flatMap_cons]
    cases h : String.utf8EncodeChar d with
    | nil => exact absurd h String.utf8EncodeChar_ne_nil
    | cons => exact .nil
  | @rel c cs d ds h =>
    rw [List.flatMap_cons, List.flatMap_cons]
    exact utf8EncodeChar_append_lt h _ _
  | @cons c cs ds _ ih =>
    rw [List.flatMap_cons, List.flatMap_cons]
    exact List.append_left_lt ih

theorem ofText_lt {s t : String} (h : s < t) : ofText s < ofText t := by
  rw [ofText_eq_flatMap, ofText_eq_flatMap]
  exact flatMap_lt_of_lt (String.lt_iff_toList_lt.1 h)

/-- The order of texts by code points is that of their octets. -/
theorem ofText_lt_iff {s t : String} : ofText s < ofText t ↔ s < t := by
  constructor
  · intro h
    by_contra hnot
    rcases (not_lt.1 hnot).lt_or_eq with hts | rfl
    · exact List.lt_asymm h (ofText_lt hts)
    · exact List.lt_irrefl _ h
  · exact ofText_lt

end PgRole.Bytes
