import PgRole.Proofs.Text.Digits
import PgRole.Uuid

/-!
# Identifiers read back

Octets written in hexadecimal digits read back (`ofHex?_toHex`), two digits an octet. Digits in
groups are the digits without the hyphens (`ungrouped_grouped`), so that the text of an identifier
is one of its identifier (`ofChars?_chars`).
-/

namespace PgRole

namespace Bytes

theorem toHex_cons (b : UInt8) (bs : Bytes) : toHex (b :: bs) =
    Text.digitChar (b.toNat / 16) :: Text.digitChar (b.toNat % 16) :: toHex bs := rfl

/-- Octets are read back from their hexadecimal digits. -/
theorem ofHex?_toHex (bs : Bytes) : ofHex? (toHex bs) = some bs := by
  induction bs with
  | nil => rfl
  | cons b bs ih =>
    have hb := b.toNat_lt
    have high : Text.hexVal? (Text.digitChar (b.toNat / 16)) = some (b.toNat / 16) :=
      Text.hexVal?_digitChar (by omega)
    have low : Text.hexVal? (Text.digitChar (b.toNat % 16)) = some (b.toNat % 16) :=
      Text.hexVal?_digitChar (by omega)
    have hwhole : UInt8.ofNat (16 * (b.toNat / 16) + b.toNat % 16) = b := by
      rw [Nat.div_add_mod, UInt8.ofNat_toNat]
    rw [toHex_cons, ofHex?, high, low, ih]
    exact congrArg (fun b' => some (b' :: bs)) hwhole

theorem length_toHex (bs : Bytes) : (toHex bs).length = 2 * bs.length := by
  induction bs with
  | nil => rfl
  | cons b bs ih =>
    rw [toHex_cons, List.length_cons, List.length_cons, ih, List.length_cons]
    omega

/-- A hexadecimal digit is no white space. -/
theorem isBlank_of_mem_toHex (bs : Bytes) : ∀ c ∈ toHex bs, Text.isBlank c = false := by
  intro c hc
  obtain ⟨b, -, hc⟩ := List.mem_flatMap.1 hc
  have hb := b.toNat_lt
  have hdigit {n : Nat} (h : n < 16) : Text.isBlank (Text.digitChar n) = false := by
    interval_cases n <;> decide
  simp only [List.mem_cons, List.not_mem_nil, or_false] at hc
  rcases hc with rfl | rfl
  · exact hdigit (by omega)
  · exact hdigit (by omega)

end Bytes

namespace Uuid

variable {cs : List Char}

theorem length_grouped (h : cs.length = 32) : (grouped cs).length = 36 := by
  simp [grouped, h]

theorem take_append_take_drop (n k : Nat) :
    (cs.drop n).take k ++ cs.drop (n + k) = cs.drop n := by
  rw [← List.drop_drop, List.take_append_drop]

/-- The digits of a group lie at its place. -/
theorem ungrouped_grouped (h : cs.length = 32) : ungrouped (grouped cs) = cs := by
  have hjoin : cs.take 8 ++ ((cs.drop 8).take 4 ++ ((cs.drop 12).take 4 ++
      ((cs.drop 16).take 4 ++ cs.drop 20))) = cs := by
    rw [take_append_take_drop 16 4, take_append_take_drop 12 4, take_append_take_drop 8 4,
      List.take_append_drop]
  -- what a group takes of the one before it is empty: it begins behind that one's hyphen
  simpa [grouped, ungrouped, List.take_append, List.drop_append, List.drop_take, h] using hjoin

theorem ofGroups?_grouped (h : cs.length = 32) : ofGroups? (grouped cs) = ofDigits? cs := by
  rw [ofGroups?, ungrouped_grouped h, if_pos rfl]

/-- The text of an identifier reads back. -/
theorem ofChars?_chars (u : Uuid) : ofChars? u.chars = some u := by
  have hlen : (Bytes.toHex u.bytes).length = 32 := by rw [Bytes.length_toHex, u.size]
  have hchars : u.chars.length = 36 := length_grouped hlen
  unfold ofChars?
  rw [if_neg (by omega), if_pos hchars, chars, ofGroups?_grouped hlen, ofDigits?,
    Bytes.ofHex?_toHex, Option.bind_some, ofBytes?, dif_pos u.size]

/-- The characters of an identifier are digits, letters and hyphens. -/
theorem isBlank_of_mem_chars (u : Uuid) : ∀ c ∈ u.chars, Text.isBlank c = false := by
  have hhyphen : Text.isBlank '-' = false := by decide
  have hhex := Bytes.isBlank_of_mem_toHex u.bytes
  intro c hc
  simp only [chars, grouped, List.mem_append, List.mem_cons] at hc
  have htake (n k : Nat) : c ∈ ((Bytes.toHex u.bytes).drop n).take k → Text.isBlank c = false :=
    fun h => hhex c (List.mem_of_mem_drop (List.mem_of_mem_take h))
  have hdrop (n : Nat) : c ∈ (Bytes.toHex u.bytes).drop n → Text.isBlank c = false :=
    fun h => hhex c (List.mem_of_mem_drop h)
  rcases hc with ((((h | rfl | h) | rfl | h) | rfl | h) | rfl | h)
  · exact htake 0 8 h
  all_goals first | exact hhyphen | exact htake _ _ h | exact hdrop _ h

end Uuid

end PgRole
