import PgRole.Json.Document
import PgRole.Proofs.Json.Token
import PgRole.Proofs.Keyed

/-!
# Values read back from their text

A value whose lists and objects are not nested too deep is read back from its text if all its
numbers are (`ofText?_text`). Integers always are. A float is written by its shortest digits, but
reading takes its digits to a float first and scales it then, each step rounded, so that another
float may come of it.

A text is followed token by token: `Document.resume?` is what comes of a text from a place on, and
`WrittenAs` says as which document a value is read from any place where one is due. What is read
from a text is nested as deep as is allowed, and its members are in order (`nested_of_ofText?`).
-/

namespace PgRole.Json

/-! ## Numbers -/

namespace Number

/-- Whether the text of a number reads as the number. -/
def readsBack (n : Number) : Bool :=
  (Literal.read? n.text).any fun (l, r) => r.isEmpty && l.value? = some n

/-- A number is read back if its text is a literal with this value. -/
theorem readsBack_iff {n : Number} :
    n.readsBack ↔ ∃ l, Literal.read? n.text = some (l, []) ∧ l.value? = some n := by
  unfold readsBack
  cases h : Literal.read? n.text with
  | none => simp
  | some x =>
    obtain ⟨l, r⟩ := x
    simp only [Option.any_some, Bool.and_eq_true, List.isEmpty_iff, decide_eq_true_eq,
      Option.some.injEq, Prod.mk.injEq]
    constructor
    · rintro ⟨rfl, hl⟩
      exact ⟨l, ⟨rfl, rfl⟩, hl⟩
    · rintro ⟨_, ⟨rfl, rfl⟩, hl⟩
      exact ⟨rfl, hl⟩

/-- The digits of a number are read as a literal without point and exponent. -/
theorem readUnsigned?_decimal (negative : Bool) (n : Nat) :
    Literal.readUnsigned? negative (Text.decimal n) =
      some (⟨negative, Text.decimal n, none, none⟩, []) := by
  have hwhole : Literal.readWhole? (Text.decimal n) = some (Text.decimal n, []) := by
    rcases Nat.eq_zero_or_pos n with rfl | hn
    · decide +kernel
    · have hall : ∀ c ∈ Text.decimal n, Text.isDigit c := fun c hc => Text.isDigit_of_mem_decimal hc
      obtain ⟨c, r, hcs, hc⟩ := Text.exists_cons_digitsOnto hn []
      rw [Literal.readWhole?.eq_2]
      · unfold Literal.digits?
        rw [List.takeWhile_eq_self_iff.2 hall, List.dropWhile_eq_nil_iff.2 hall]
        simp [Text.decimal_ne_nil]
      · intro r' hr'
        exact hc (List.cons.inj (hcs.symm.trans hr')).1
  simp [Literal.readUnsigned?, hwhole, Literal.readFraction?, Literal.readExponent?]

/-- An integer reads as itself. -/
theorem readsBack_int (i : Int) (h : minInt ≤ i ∧ i ≤ maxInt) : (Number.int i h).readsBack := by
  rw [readsBack_iff]
  cases i with
  | ofNat n =>
    refine ⟨⟨false, Text.decimal n, none, none⟩, ?_, ?_⟩
    · have hread : Literal.read? (Text.decimal n) =
          Literal.readUnsigned? false (Text.decimal n) := by
        refine Literal.read?.eq_2 _ fun r hr => ?_
        have hdigit := Text.isDigit_of_mem_decimal (n := n) (hr ▸ List.mem_cons_self)
        revert hdigit
        decide
      rw [text, Text.intText, Text.natText, String.toList_ofList, hread, readUnsigned?_decimal]
    · have hofInt : ofInt? (n : Int) = some (.int (.ofNat n) h) := dif_pos h
      simp [Literal.value?, Text.valueOf_decimal, hofInt]
  | negSucc n =>
    refine ⟨⟨true, Text.decimal (n + 1), none, none⟩, ?_, ?_⟩
    · rw [text, Text.intText, String.toList_ofList, Literal.read?, readUnsigned?_decimal]
    · have hofInt : ofInt? (-((n + 1 : Nat) : Int)) = some (.int (.negSucc n) h) := dif_pos h
      simp only [Literal.value?, Text.valueOf_decimal, hofInt]
      simp

end Number

/-! ## Nesting -/

/-- Lists and objects are nested at most so deep, and the members of objects are in order. -/
inductive Nested : Nat → Json → Prop where
  | null (d : Nat) : Nested d .null
  | bool (d : Nat) (b : Bool) : Nested d (.bool b)
  | num (d : Nat) (n : Number) : Nested d (.num n)
  | str (d : Nat) (s : String) : Nested d (.str s)
  | arr {d : Nat} {items : List Json} (h : ∀ j ∈ items, Nested d j) : Nested (d + 1) (.arr items)
  | obj {d : Nat} {fields : List (String × Json)} (hs : Entries.Sorted fields)
      (h : ∀ f ∈ fields, Nested d f.2) : Nested (d + 1) (.obj fields)

mutual

/-- The numbers in a value. -/
def numbers : Json → List Number
  | .null | .bool _ | .str _ => []
  | .num n => [n]
  | .arr items => itemNumbers items
  | .obj fields => memberNumbers fields

/-- The numbers in items. -/
def itemNumbers : List Json → List Number
  | [] => []
  | j :: r => numbers j ++ itemNumbers r

/-- The numbers in members. -/
def memberNumbers : List (String × Json) → List Number
  | [] => []
  | (_, j) :: r => numbers j ++ memberNumbers r

end

theorem itemNumbers_eq (items : List Json) : itemNumbers items = items.flatMap numbers := by
  induction items with
  | nil => rfl
  | cons j r ih => rw [itemNumbers, ih, List.flatMap_cons]

theorem memberNumbers_eq (fields : List (String × Json)) :
    memberNumbers fields = fields.flatMap fun f => f.2.numbers := by
  induction fields with
  | nil => rfl
  | cons f r ih => rw [memberNumbers, ih, List.flatMap_cons]

theorem numbers_subset_arr {j : Json} {items : List Json} (h : j ∈ items) :
    j.numbers ⊆ (arr items).numbers := by
  intro n hn
  rw [numbers, itemNumbers_eq]
  exact List.mem_flatMap.2 ⟨j, h, hn⟩

theorem numbers_subset_obj {f : String × Json} {fields : List (String × Json)} (h : f ∈ fields) :
    f.2.numbers ⊆ (obj fields).numbers := by
  intro n hn
  rw [numbers, memberNumbers_eq]
  exact List.mem_flatMap.2 ⟨f, h, hn⟩

/-! ## Texts from a place on -/

namespace Document

/-- The document of a text from a place on. -/
def resume? (cs : List Char) (p : Place) : Option Document :=
  (Token.all? cs).bind fun ts => run ts p

theorem resume?_nil (d : Document) : resume? [] (.done d []) = some d := by
  rw [resume?, Token.all?]
  rfl

/-- One token at the front is one step. -/
theorem resume?_token {c : Char} {r rest : List Char} {t : Token} (hc : isSpace c = false)
    (h : Token.next? (c :: r) = some (t, rest)) (p : Place) :
    resume? (c :: r) p = (p.step t).bind (resume? rest) := by
  unfold resume?
  rw [all?_cons hc, h, Option.bind_some]
  cases Token.all? rest with
  | none => cases p.step t <;> rfl
  | some ts => rfl

/-- A place where a value is due: a token that closes no list begins one. -/
def Place.Due (p : Place) (outer : List Frame) : Prop :=
  ∀ t, t ≠ .closeList → p.step t = startValue outer t

theorem Place.due_value (outer : List Frame) : (Place.value outer).Due outer := fun _ _ => rfl

theorem Place.due_firstItem (outer : List Frame) :
    (Place.firstItem outer).Due (.item [] :: outer) := fun _ ht => if_neg ht

/-- A place where the name of a member is due. -/
def Place.NameDue (p : Place) (before : List (Option String × Document)) (outer : List Frame) :
    Prop := ∀ s, p.step (.str s) = some (.colon before s outer)

end Document

open Document (resume? Place Frame)

/-- The text of a value is read as a document from any place where a value is due. -/
def WrittenAs (j : Json) (doc : Document) : Prop :=
  ∀ ⦃p : Place⦄ ⦃outer : List Frame⦄, p.Due outer → ∀ ⦃rest : List Char⦄, EndsValue rest →
    resume? (j.compact ++ rest) p = resume? rest (.done doc outer)

/-- It is so for all of the text. -/
theorem WrittenAs.parse? {j : Json} {doc : Document} (h : WrittenAs j doc) :
    Document.parse? j.compact = some doc := by
  have hresume := h (Place.due_value []) endsValue_nil
  rw [List.append_nil, Document.resume?_nil] at hresume
  exact hresume

/-- A value that is a single token. -/
theorem writtenAs_token {j : Json} {doc : Document} {t : Token} (ht : t ≠ .closeList)
    (hstart : ∀ outer, Place.startValue outer t = some (.done doc outer))
    (hnext : ∀ rest, EndsValue rest → ∃ c r, j.compact ++ rest = c :: r ∧ isSpace c = false ∧
      Token.next? (c :: r) = some (t, rest)) : WrittenAs j doc := by
  intro p outer hp rest hrest
  obtain ⟨c, r, htext, hc, hnext⟩ := hnext rest hrest
  rw [htext, Document.resume?_token hc hnext, hp t ht, hstart]
  rfl

theorem writtenAs_str (s : String) : WrittenAs (.str s) (.str (some s)) := by
  refine writtenAs_token (t := .str (some s)) (by simp) (fun _ => rfl) fun rest _ => ?_
  have hnext := next?_stringText s rest
  exact ⟨'"', s.toList.flatMap escaped ++ ['"'] ++ rest, rfl, by decide, hnext⟩

/-- Items with commas between them, up to the end of their list. -/
theorem resume?_items {items : List Json} {docs : List Document} (hne : items ≠ [])
    (h : List.Forall₂ WrittenAs items docs) {p : Place} {before : List Document}
    {outer : List Frame} (hp : p.Due (.item before :: outer)) (rest : List Char) :
    resume? (compactItems items ++ ']' :: rest) p =
      resume? rest (.done (.arr (before.reverse ++ docs)) outer) := by
  -- for all items that stand before: the frame keeps those read so far, the last one first
  induction h generalizing p before with
  | nil => exact absurd rfl hne
  | @cons j doc items docs hdoc h ih =>
    cases h with
    | nil =>
      rw [compactItems, hdoc hp (endsValue_cons (.inr (.inl rfl))),
        Document.resume?_token (by decide) rfl]
      simp [Place.step]
    | @cons j' doc' items docs =>
      have htext : compactItems (j :: j' :: items) ++ ']' :: rest =
          j.compact ++ ',' :: (compactItems (j' :: items) ++ ']' :: rest) := by
        simp [compactItems]
      rw [htext, hdoc hp (endsValue_cons (.inl rfl)), Document.resume?_token (by decide) rfl,
        Place.step, Option.bind_some, ih (by simp) (Place.due_value _)]
      simp

/-- A name and its colon lead to the value of the member. -/
theorem resume?_name {p : Place} {before : List (Option String × Document)} {outer : List Frame}
    (hp : p.NameDue before outer) (k : String) (rest : List Char) :
    resume? (stringText k ++ ':' :: rest) p =
      resume? rest (.value (.member before (some k) :: outer)) := by
  have hnext := next?_stringText k (':' :: rest)
  rw [stringText, List.cons_append, List.cons_append] at hnext ⊢
  rw [Document.resume?_token (by decide) hnext, hp, Option.bind_some,
    Document.resume?_token (by decide) rfl]
  rfl

/-- The name and the text of a value are read as a member. -/
def MemberWrittenAs (f : String × Json) (m : Option String × Document) : Prop :=
  m.1 = some f.1 ∧ WrittenAs f.2 m.2

/-- Members with commas between them, up to the end of their object. -/
theorem resume?_fields {fields : List (String × Json)} {members : List (Option String × Document)}
    (hne : fields ≠ []) (h : List.Forall₂ MemberWrittenAs fields members) {p : Place}
    {before : List (Option String × Document)} {outer : List Frame} (hp : p.NameDue before outer)
    (rest : List Char) : resume? (compactFields fields ++ '\x7d' :: rest) p =
      resume? rest (.done (.obj (before.reverse ++ members)) outer) := by
  induction h generalizing p before with
  | nil => exact absurd rfl hne
  | @cons f m fields members hm h ih =>
    obtain ⟨k, j⟩ := f
    obtain ⟨name, doc⟩ := m
    obtain ⟨rfl, hdoc⟩ : name = some k ∧ WrittenAs j doc := hm
    -- the last member is followed by the brace, any other by a comma and the next name
    cases h with
    | nil =>
      rw [compactFields, List.append_assoc, List.cons_append, resume?_name hp,
        hdoc (Place.due_value _) (endsValue_cons (.inr (.inr rfl))),
        Document.resume?_token (by decide) rfl]
      simp [Place.step]
    | @cons f' m' fields members =>
      have htext : compactFields ((k, j) :: f' :: fields) ++ '\x7d' :: rest = stringText k ++ ':' ::
          (j.compact ++ ',' :: (compactFields (f' :: fields) ++ '\x7d' :: rest)) := by
        simp [compactFields]
      rw [htext, resume?_name hp, hdoc (Place.due_value _) (endsValue_cons (.inl rfl)),
        Document.resume?_token (by decide) rfl, Place.step, Option.bind_some,
        ih (by simp) fun _ => rfl]
      simp

/-- A list is read in any place where a value is due. -/
theorem writtenAs_arr {items : List Json} {docs : List Document}
    (h : List.Forall₂ WrittenAs items docs) : WrittenAs (.arr items) (.arr docs) := by
  intro p outer hp rest _
  cases h with
  | nil =>
    show resume? ('[' :: ']' :: rest) p = _
    rw [Document.resume?_token (by decide) rfl, hp _ (by simp), Place.startValue, Option.bind_some,
      Document.resume?_token (by decide) rfl]
    rfl
  | @cons j doc items docs hdoc h =>
    have htext : (Json.arr (j :: items)).compact ++ rest =
        '[' :: (compactItems (j :: items) ++ ']' :: rest) := by
      simp [compact]
    rw [htext, Document.resume?_token (by decide) rfl, hp _ (by simp), Place.startValue,
      Option.bind_some, resume?_items (by simp) (.cons hdoc h) (Place.due_firstItem outer)]
    rfl

/-- An object is read in any place where a value is due. -/
theorem writtenAs_obj {fields : List (String × Json)} {members : List (Option String × Document)}
    (h : List.Forall₂ MemberWrittenAs fields members) : WrittenAs (.obj fields) (.obj members) := by
  intro p outer hp rest _
  cases h with
  | nil =>
    show resume? ('\x7b' :: '\x7d' :: rest) p = _
    rw [Document.resume?_token (by decide) rfl, hp _ (by simp), Place.startValue, Option.bind_some,
      Document.resume?_token (by decide) rfl]
    rfl
  | @cons f m fields members hm h =>
    have htext : (Json.obj (f :: fields)).compact ++ rest =
        '\x7b' :: (compactFields (f :: fields) ++ '\x7d' :: rest) := by
      simp [compact]
    rw [htext, Document.resume?_token (by decide) rfl, hp _ (by simp), Place.startValue,
      Option.bind_some, resume?_fields (by simp) (.cons hm h) fun _ => rfl]
    rfl

/-- The text of a value is read as a document with this value. -/
structure ReadsAs (d : Nat) (j : Json) (doc : Document) : Prop where
  value : doc.valueWithin? d = some j
  written : WrittenAs j doc

/-- A list of values that are read back is read back. -/
theorem exists_readsAs_arr {d : Nat} {items : List Json} (h : ∀ j ∈ items, ∃ doc, ReadsAs d j doc) :
    ∃ doc, ReadsAs (d + 1) (.arr items) doc := by
  obtain ⟨docs, hdocs, hwritten⟩ : ∃ docs, Document.items? d docs = some items ∧
      List.Forall₂ WrittenAs items docs := by
    induction items with
    | nil => exact ⟨[], rfl, .nil⟩
    | cons j items ih =>
      obtain ⟨⟨doc, hdoc⟩, h⟩ := List.forall_mem_cons.1 h
      obtain ⟨docs, hdocs, hwritten⟩ := ih h
      exact ⟨doc :: docs, by simp [Document.items?, hdoc.value, hdocs], .cons hdoc.written hwritten⟩
  exact ⟨.arr docs, by simp [Document.valueWithin?, hdocs], writtenAs_arr hwritten⟩

/-- So is an object of such values under names in order. -/
theorem exists_readsAs_obj {d : Nat} {fields : List (String × Json)} (hs : Entries.Sorted fields)
    (h : ∀ f ∈ fields, ∃ doc, ReadsAs d f.2 doc) : ∃ doc, ReadsAs (d + 1) (.obj fields) doc := by
  obtain ⟨members, hmembers, hwritten⟩ : ∃ members, Document.members? d members = some fields ∧
      List.Forall₂ MemberWrittenAs fields members := by
    clear hs
    induction fields with
    | nil => exact ⟨[], rfl, .nil⟩
    | cons f fields ih =>
      obtain ⟨⟨doc, hdoc⟩, h⟩ := List.forall_mem_cons.1 h
      obtain ⟨members, hmembers, hwritten⟩ := ih h
      exact ⟨(some f.1, doc) :: members, by simp [Document.members?, hdoc.value, hmembers],
        .cons ⟨rfl, hdoc.written⟩ hwritten⟩
  refine ⟨.obj members, ?_, writtenAs_obj hwritten⟩
  simp [Document.valueWithin?, hmembers, Json.object, Entries.ofList_of_sorted hs]

/-- A value that is not nested too deep is read from its text, if all its numbers are. -/
theorem Nested.exists_readsAs {d : Nat} {j : Json} (h : j.Nested d)
    (hn : ∀ n ∈ j.numbers, n.readsBack) : ∃ doc, ReadsAs d j doc := by
  induction h with
  | null d =>
    exact ⟨.null, rfl, writtenAs_token (t := .null) (by simp) (fun _ => rfl)
      fun rest _ => ⟨'n', 'u' :: 'l' :: 'l' :: rest, rfl, by decide, rfl⟩⟩
  | bool d b =>
    refine ⟨.bool b, rfl, writtenAs_token (t := .bool b) (by simp) (fun _ => rfl) fun rest _ => ?_⟩
    cases b with
    | true => exact ⟨'t', 'r' :: 'u' :: 'e' :: rest, rfl, by decide, rfl⟩
    | false => exact ⟨'f', 'a' :: 'l' :: 's' :: 'e' :: rest, rfl, by decide, rfl⟩
  | num d n =>
    obtain ⟨l, hread, hvalue⟩ := Number.readsBack_iff.1 (hn n (by simp [numbers]))
    refine ⟨.num l, by simp [Document.valueWithin?, hvalue], writtenAs_token (t := .num l) (by simp)
      (fun _ => rfl) fun rest hrest => ?_⟩
    -- a number is read to its end because no value goes on with a digit or point
    have hnext := next?_number hread fun _ => hrest.endsNumber
    obtain ⟨c, cs, htext, hc⟩ := Literal.exists_cons_of_read? hread
    rw [htext] at hnext
    refine ⟨c, cs ++ rest, by rw [compact, htext, List.cons_append], ?_, hnext⟩
    rcases hc with rfl | hc
    · decide
    · exact isSpace_of_isDigit hc
  | str d s => exact ⟨.str (some s), rfl, writtenAs_str s⟩
  | arr _ ih =>
    exact exists_readsAs_arr fun j hj => ih j hj fun n h => hn n (numbers_subset_arr hj h)
  | obj hs _ ih =>
    exact exists_readsAs_obj hs fun f hf => ih f hf fun n h => hn n (numbers_subset_obj hf h)

/-- A value is read back from its text if it is not nested too deep and its numbers are read
back. -/
theorem ofText?_text {j : Json} (h : j.Nested Document.maxDepth)
    (hn : ∀ n ∈ j.numbers, n.readsBack) : ofText? j.text = some j := by
  obtain ⟨doc, hdoc⟩ := h.exists_readsAs hn
  rw [ofText?, text, String.toList_ofList, hdoc.written.parse?]
  exact hdoc.value

/-! ## Values that were read -/

namespace Document

mutual

/-- A document that is accepted within a depth is a value that is nested no deeper. -/
theorem nested_of_valueWithin? : ∀ {d : Nat} {doc : Document} {j : Json},
    doc.valueWithin? d = some j → j.Nested d
  | d, .null, j, h => by
    cases h
    exact .null d
  | d, .bool b, j, h => by
    cases h
    exact .bool d b
  | d, .num l, j, h => by
    obtain ⟨n, -, rfl⟩ := Option.map_eq_some_iff.1 h
    exact .num d n
  | d, .str s, j, h => by
    obtain ⟨s, -, rfl⟩ := Option.map_eq_some_iff.1 h
    exact .str d s
  | 0, .arr items, j, h => by cases h
  | d + 1, .arr items, j, h => by
    obtain ⟨js, hjs, rfl⟩ := Option.map_eq_some_iff.1 h
    exact .arr (nested_of_items? hjs)
  | 0, .obj members, j, h => by cases h
  | d + 1, .obj members, j, h => by
    obtain ⟨fs, hfs, rfl⟩ := Option.map_eq_some_iff.1 h
    exact .obj (Entries.sorted_ofList fs) fun f hf =>
      nested_of_members? hfs f (Entries.mem_of_mem_ofList hf)

theorem nested_of_items? : ∀ {d : Nat} {docs : List Document} {js : List Json},
    items? d docs = some js → ∀ j ∈ js, j.Nested d
  | d, [], js, h => by
    cases h
    simp
  | d, doc :: docs, js, h => by
    simp only [items?, bind, Option.bind_eq_some_iff, pure, Option.some.injEq] at h
    obtain ⟨j, hj, js, hjs, rfl⟩ := h
    exact List.forall_mem_cons.2 ⟨nested_of_valueWithin? hj, nested_of_items? hjs⟩

theorem nested_of_members? : ∀ {d : Nat} {members : List (Option String × Document)}
    {fs : List (String × Json)}, members? d members = some fs → ∀ f ∈ fs, f.2.Nested d
  | d, [], fs, h => by
    cases h
    simp
  | d, (name, doc) :: members, fs, h => by
    simp only [members?, bind, Option.bind_eq_some_iff, pure, Option.some.injEq] at h
    obtain ⟨k, -, j, hj, fs, hfs, rfl⟩ := h
    exact List.forall_mem_cons.2 ⟨nested_of_valueWithin? hj, nested_of_members? hfs⟩

end

end Document

/-- What is read from a text is not nested too deep. -/
theorem nested_of_ofText? {s : String} {j : Json} (h : ofText? s = some j) :
    j.Nested Document.maxDepth := by
  obtain ⟨doc, -, hvalue⟩ := Option.bind_eq_some_iff.1 h
  exact Document.nested_of_valueWithin? hvalue

/-! ## Strings that are texts of values -/

theorem length_le_of_joinUnits {units : List StringUnit} {cs : List Char}
    (h : joinUnits units = some cs) : cs.length ≤ units.length := by
  fun_induction joinUnits units generalizing cs <;>
    simp_all [Option.map_eq_some_iff] <;> grind

theorem length_lt_of_readUnits {cs r : List Char} {units : List StringUnit}
    (h : readUnits cs = some (units, r)) : units.length < cs.length := by
  fun_induction readUnits cs generalizing units r <;>
    simp_all [Option.bind_eq_some_iff] <;> grind

/-- A string is shorter than the text in which it is the only token. -/
theorem length_lt_of_all? {cs : List Char} {s : String}
    (h : Token.all? cs = some [.str (some s)]) : s.toList.length < cs.length := by
  induction cs with
  | nil =>
    rw [Token.all?] at h
    cases h
  | cons c r ih =>
    rw [Token.all?] at h
    split_ifs at h with hc
    · exact (ih h).trans (by simp)
    · split at h
      · cases h
      · rename_i t rest hnext
        obtain ⟨ts, -, hts⟩ := Option.map_eq_some_iff.1 h
        obtain ⟨rfl, rfl⟩ := List.cons.inj hts
        unfold Token.next? at hnext
        split at hnext
        -- of the kinds of tokens only the one that begins with a quote is a string
        case h_10 heq =>
          cases heq
          obtain ⟨⟨units, r'⟩, hunits, heq⟩ := Option.map_eq_some_iff.1 hnext
          obtain ⟨hs, -⟩ := Prod.mk.inj heq
          obtain ⟨cs, hcs, rfl⟩ := Option.map_eq_some_iff.1 (Token.str.inj hs)
          have := length_le_of_joinUnits hcs
          have := length_lt_of_readUnits hunits
          rw [String.toList_ofList, List.length_cons]
          omega
        case h_11 =>
          obtain ⟨_, -, heq⟩ := Option.map_eq_some_iff.1 hnext
          cases heq
        all_goals cases hnext

namespace Document

/-- A place inside a list or an object, or behind a value that is no string. -/
def Place.Inside : Place → Prop
  | .value outer => outer ≠ []
  | .firstItem _ | .firstName _ | .memberName .. | .colon .. => True
  | .done d outer => outer ≠ [] ∨ ∀ s, d ≠ .str s

theorem Place.inside_startValue {t : Token} {outer : List Frame} {p : Place} (ho : outer ≠ [])
    (h : startValue outer t = some p) : p.Inside := by
  unfold startValue at h
  split at h <;> cases h <;> simp [Inside, ho]

/-- Inside a list or an object a token leads inside, or to its end. -/
theorem Place.Inside.step {t : Token} {p p' : Place} (hp : p.Inside) (h : p.step t = some p') :
    p'.Inside := by
  unfold Place.step at h
  split at h
  · exact inside_startValue hp h
  · split_ifs at h
    · cases h
      exact .inr (by simp)
    · exact inside_startValue (by simp) h
  · split at h <;> cases h <;> simp [Inside]
  · split at h <;> cases h
    trivial
  · split_ifs at h
    cases h
    simp [Inside]
  · split at h <;> cases h <;> simp [Inside]
  · split at h <;> cases h <;> simp [Inside]
  · cases h

/-- What began inside a list or an object does not end as a string. -/
theorem run_ne_str {ts : List Token} {p : Place} {x : Option String} (hp : p.Inside) :
    run ts p ≠ some (.str x) := by
  induction ts generalizing p with
  | nil =>
    intro h
    cases p with
    -- a text may end only where a value is complete and nothing is open around it
    | done d outer =>
      cases outer with
      | nil =>
        cases h
        exact hp.elim (fun hne => hne rfl) fun hd => hd x rfl
      | cons => cases h
    | _ => cases h
  | cons t ts ih =>
    intro h
    rw [run] at h
    obtain ⟨p', hstep, h⟩ := Option.bind_eq_some_iff.1 h
    exact ih (hp.step hstep) h

/-- A text that is a string is one token. -/
theorem tokens_eq_of_run {ts : List Token} {x : Option String}
    (h : run ts (.value []) = some (.str x)) : ts = [.str x] := by
  cases ts with
  | nil => cases h
  | cons t ts =>
    rw [run] at h
    obtain ⟨p, hstep, h⟩ := Option.bind_eq_some_iff.1 h
    cases t with
    | str s =>
      cases hstep
      cases ts with
      | nil =>
        cases h
        rfl
      | cons t ts => cases h
    | _ =>
      cases hstep <;> exact absurd h (run_ne_str (by simp [Place.Inside]))

/-- A document whose value is a string is this string. -/
theorem eq_str_of_value? {doc : Document} {s : String} (h : doc.value? = some (.str s)) :
    doc = .str (some s) := by
  unfold value? at h
  cases doc with
  | str s' =>
    obtain ⟨s', rfl, hs⟩ := Option.map_eq_some_iff.1 h
    rw [Json.str.inj hs]
  | null => cases h
  | bool b => cases h
  | num l =>
    obtain ⟨n, -, hn⟩ := Option.map_eq_some_iff.1 h
    cases hn
  | arr items =>
    obtain ⟨js, -, hjs⟩ := Option.map_eq_some_iff.1 h
    cases hjs
  | obj members =>
    obtain ⟨fs, -, hfs⟩ := Option.map_eq_some_iff.1 h
    cases hfs

end Document

/-- No text is the JSON text of a string equal to it. -/
theorem ofText?_ne_self (s : String) : ofText? s ≠ some (.str s) := by
  intro h
  obtain ⟨doc, hparse, hvalue⟩ := Option.bind_eq_some_iff.1 h
  obtain ⟨ts, htokens, hrun⟩ := Option.bind_eq_some_iff.1 hparse
  rw [Document.eq_str_of_value? hvalue] at hrun
  rw [Document.tokens_eq_of_run hrun] at htokens
  exact lt_irrefl _ (length_lt_of_all? htokens)

end PgRole.Json
