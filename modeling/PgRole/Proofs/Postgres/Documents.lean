import PgRole.Proofs.Json.Text
import PgRole.Proofs.Postgres.RoundTrip

/-!
# Octets and documents

What becomes of the octets of `BYTEA` and of JSON documents that are shown and sent back. A cell of
octets is shown in hexadecimal digits, while a text for octets stands for its own UTF-8 form: the
octets do not come back, but what comes back tells them. A document comes back as it is, unless it
is a string that is itself the text of a document: such a string is sent as that document.

* `Param.all_document`: both, and null.
-/

namespace PgRole

/-- The UTF-8 form of a text has an octet or more for each character. -/
theorem Bytes.length_toList_le_ofText (s : String) : s.toList.length ≤ (ofText s).length := by
  have hchars : ∀ cs : List Char, cs.length ≤ cs.utf8Encode.size := by
    intro cs
    induction cs with
    | nil => simp
    | cons c cs ih =>
      have hsize : [c].utf8Encode.size = c.utf8Size := by
        rw [List.utf8Encode_singleton, List.size_toByteArray, String.length_utf8EncodeChar]
      have := c.utf8Size_pos
      rw [List.utf8Encode_cons, ByteArray.size_append, hsize, List.length_cons]
      omega
  have h := hchars s.toList
  rw [String.utf8Encode_toList] at h
  simpa [ofText] using h

namespace Postgres

/-- The names of the types of documents. -/
def documentTypes : List String := ["JSON", "JSONB"]

namespace Cell

theorem toJson_octets (bs : Bytes) :
    toJson (.plain "BYTEA") (some bs) = .ok (.str (hexText bs)) := rfl

theorem toJson_null {name : String} (h : name ∈ "BYTEA" :: documentTypes) :
    toJson (.plain name) none = .ok .null := by
  simp only [documentTypes, List.mem_cons, List.not_mem_nil, or_false] at h
  rcases h with rfl | rfl | rfl <;> rfl

/-- What a document is behind its mark is what a cell of a versioned type shows. -/
theorem toJson_versioned {bs : Bytes} {j : Json} (h : json true bs = .ok j) :
    toJson (.plain "JSONB") (some bs) = .ok j := by
  have hform : CellForm.ofType? (.plain "JSONB") = some .json := rfl
  have hdecode : decode (.plain "JSONB") bs .json = .ok j := h
  rw [toJson, hform]
  dsimp only
  rw [hdecode]
  rfl

/-- The octets that a shown cell tells are too few to be its UTF-8 form. -/
theorem ofText_hexText_ne (bs : Bytes) : Bytes.ofText (hexText bs) ≠ bs := by
  intro h
  have hle := Bytes.length_toList_le_ofText (hexText bs)
  rw [h, hexText, String.toList_ofList, List.length_cons, List.length_cons, Bytes.length_toHex]
    at hle
  omega

end Cell

namespace Param

/-- A document is sent as what it is for a caller: a string that is a JSON text as that JSON. -/
theorem all_json {name : String} (h : name ∈ documentTypes) {j : Json} (hj : j.isNull = false) :
    all [.plain name] [j] = .ok [.json (Conversion.json j)] := by
  refine all_singleton hj ?_
  simp only [documentTypes, List.mem_cons, List.not_mem_nil, or_false] at h
  rcases h with rfl | rfl <;> rfl

/-- A string that is a JSON text stands for this JSON. -/
theorem json_str {s : String} {w : Json} (h : Json.ofText? s = some w) :
    Conversion.json (.str s) = w := by
  rw [Conversion.json, h, Option.getD_some]

/-- Octets and documents, shown and sent back. Null is null. Octets come back as the UTF-8 form of
the text that shows them, never as themselves; its hexadecimal digits are those of the octets. A
document of null comes back as null, a string that is a JSON text as the document of this text,
which is another one, and every other document as itself. -/
theorem all_document :
    (∀ name ∈ "BYTEA" :: documentTypes,
      Cell.toJson (.plain name) none = .ok .null ∧ all [.plain name] [.null] = .ok [.null]) ∧
    (∀ bs : Bytes, Cell.toJson (.plain "BYTEA") (some bs) = .ok (.str (Cell.hexText bs)) ∧
      all [.plain "BYTEA"] [.str (Cell.hexText bs)] =
        .ok [.bytes (Bytes.ofText (Cell.hexText bs))] ∧
      Bytes.ofText (Cell.hexText bs) ≠ bs ∧
      ∃ ds, (Cell.hexText bs).toList = '\\' :: 'x' :: ds ∧ Bytes.ofHex? ds = some bs) ∧
    ∀ name ∈ documentTypes, ∀ bs j, Cell.toJson (.plain name) (some bs) = .ok j →
      (j = .null ∧ all [.plain name] [j] = .ok [.null]) ∨
      (∃ s w, j = .str s ∧ Json.ofText? s = some w ∧ w ≠ j ∧
        all [.plain name] [j] = .ok [.json w]) ∨
      (j ≠ .null ∧ (∀ s, j = .str s → Json.ofText? s = none) ∧
        all [.plain name] [j] = .ok [.json j]) := by
  refine ⟨fun name hname => ⟨Cell.toJson_null hname, rfl⟩, fun bs => ?_, ?_⟩
  · refine ⟨Cell.toJson_octets bs, all_singleton rfl rfl, Cell.ofText_hexText_ne bs, ?_⟩
    exact ⟨Bytes.toHex bs, String.toList_ofList, Bytes.ofHex?_toHex bs⟩
  · intro name hname bs j _
    -- only a text is read again; what is no text is bound as it is
    cases j with
    | null => exact .inl ⟨rfl, rfl⟩
    | str s =>
      cases hs : Json.ofText? s with
      | none =>
        refine .inr (.inr ⟨by simp, ?_, ?_⟩)
        · rintro _ ⟨⟩
          exact hs
        · rw [all_json hname rfl, Conversion.json, hs, Option.getD_none]
      | some w =>
        refine .inr (.inl ⟨s, w, rfl, hs, ?_, ?_⟩)
        · rintro rfl
          exact Json.ofText?_ne_self s hs
        · rw [all_json hname rfl, json_str hs]
    | bool b => exact .inr (.inr ⟨by simp, by simp, all_json hname rfl⟩)
    | num n => exact .inr (.inr ⟨by simp, by simp, all_json hname rfl⟩)
    | arr items => exact .inr (.inr ⟨by simp, by simp, all_json hname rfl⟩)
    | obj fields => exact .inr (.inr ⟨by simp, by simp, all_json hname rfl⟩)

/-- A string that holds a list is shown as the string. -/
theorem toJson_listInString : Cell.toJson (.plain "JSONB") (some (1 :: Bytes.ofText "\"[1]\"")) =
    .ok (.str "[1]") := by
  have hoctets : Bytes.text? (Bytes.ofText "\"[1]\"") = some (Json.str "[1]").text := by
    decide +kernel
  have hread : Json.ofText? (Json.str "[1]").text = some (.str "[1]") :=
    Json.ofText?_text (.str _ _) (by simp [Json.numbers])
  refine Cell.toJson_versioned ?_
  rw [Cell.json, if_pos rfl, Cell.document, hoctets, Option.bind_some, hread]
  rfl

/-- A versioned document that is the string of a list. -/
theorem all_document_listInString :
    Cell.toJson (.plain "JSONB") (some (1 :: Bytes.ofText "\"[1]\"")) = .ok (.str "[1]") ∧
    ∃ w, Json.ofText? "[1]" = some w ∧ w ≠ .str "[1]" ∧
      all [.plain "JSONB"] [.str "[1]"] = .ok [.json w] := by
  refine ⟨toJson_listInString, ?_⟩
  have hlist : (Json.ofText? "[1]").isSome := by decide +kernel
  rcases all_document.2.2 "JSONB" (by decide) _ _ toJson_listInString with
    ⟨hnull, -⟩ | ⟨s, w, hs, hw, hne, hall⟩ | ⟨-, hnone, -⟩
  · cases hnull
  · cases hs
    exact ⟨w, hw, hne, hall⟩
  · rw [hnone "[1]" rfl] at hlist
    cases hlist

/-- Octets come back as the digits that show them, and a string that is a JSON text comes back as no
string. -/
theorem not_all_document :
    (¬ ∀ bs, ∃ v, Cell.toJson (.plain "BYTEA") (some bs) = .ok v ∧
      all [.plain "BYTEA"] [v] = .ok [.bytes bs]) ∧
    ¬ ∀ bs j, Cell.toJson (.plain "JSONB") (some bs) = .ok j →
      all [.plain "JSONB"] [j] = .ok [.json j] ∨ all [.plain "JSONB"] [j] = .ok [.null] := by
  constructor
  · intro h
    obtain ⟨v, hv, hall⟩ := h [97, 98, 99]
    rw [Cell.toJson_octets] at hv
    cases hv
    have hsent : all [.plain "BYTEA"] [.str (Cell.hexText [97, 98, 99])] =
        .ok [.bytes (Bytes.ofText (Cell.hexText [97, 98, 99]))] := all_singleton rfl rfl
    rw [hsent] at hall
    simp only [Except.ok.injEq, List.cons.injEq, and_true, bytes.injEq] at hall
    exact Cell.ofText_hexText_ne _ hall
  · intro h
    have hlist : ((Json.ofText? "[1]").bind Json.arr?).isSome := by decide +kernel
    obtain ⟨items, hbind⟩ := Option.isSome_iff_exists.1 hlist
    obtain ⟨w, hw, hitems⟩ := Option.bind_eq_some_iff.1 hbind
    have hsent : all [.plain "JSONB"] [.str "[1]"] = .ok [.json w] := by
      rw [all_json (by decide) rfl, json_str hw]
    rcases h _ _ toJson_listInString with hall | hall
    · rw [hsent] at hall
      simp only [Except.ok.injEq, List.cons.injEq, and_true, json.injEq] at hall
      rw [hall] at hitems
      cases hitems
    · rw [hsent] at hall
      simp at hall

end Param

end Postgres

end PgRole
