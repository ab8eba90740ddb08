import PgRole.Proofs.Float.Value
import PgRole.Proofs.Postgres.RoundTrip

/-!
# Integers are bound exactly

A value that converts to an integer is that integer: an integer itself, a float without a fraction
by its exact value, a text by its digits. Nothing is wrapped, clamped, rounded or cut off.

* `Conversion.int64?_eq_some_iff`: the three ways from a number to an integer. One beyond the signed
  integers of 64 bits goes through a float, and the bound there is itself rounded up to 2^63; a
  number that passes the bound is within the range all the same, and so the clamp behind it never
  moves one. The one loss is the float -2^63, which is refused.
* `Scalar.ofJson_eq_ok_iff`: which values an integer type takes, and as which integers.
* `Param.integers_exact`: the same for parameters, for lists and under domains.

A domain is looked up by its own name before its base, so that one with the name of a built-in type
takes what that type takes (`Param.not_within_base`).
-/

namespace PgRole

/-- The exact value of a number. -/
def Json.Number.toRat : Json.Number → Rat
  | .int i _ => i
  | .float x _ => x.toRat

/-- The integer that a value stands for: a number by its exact value, a text by its digits, with
white space around them or not. -/
inductive Json.Denotes : Json → Int → Prop
  | number {n : Json.Number} {i : Int} (h : n.toRat = i) : Denotes (.num n) i
  | text {s : String} {before digits after : List Char} {i : Int}
    (hbefore : ∀ c ∈ before, Text.isBlank c) (hafter : ∀ c ∈ after, Text.isBlank c)
    (hdigits : Text.Numeral digits i) (h : s.toList = before ++ digits ++ after) :
    Denotes (.str s) i

/-- The integer that a value is converted to: the one that it stands for, the float -2^63
excepted. -/
def Json.Gives (j : Json) (i : Int) : Prop :=
  j.Denotes i ∧ ∀ x h, j = .num (.float x h) → i ≠ -2 ^ 63

theorem Json.eq_null_of_isNull {j : Json} (h : j.isNull) : j = .null := by
  cases j with
  | null => rfl
  | _ => cases h

namespace Postgres

namespace Conversion

/-! ## Numbers -/

/-- The bound of the floats is 2^63. -/
theorem magnitude_lt_int64Bound_iff {x : Binary64} :
    x.magnitude < int64Bound.magnitude ↔ x.distance < 2 ^ 63 := by
  have hbound : int64Bound.num = 2 ^ 63 ∧ int64Bound.den = 1 := ⟨rfl, rfl⟩
  rw [Binary.magnitude_lt_iff]
  have hvalue : int64Bound.distance = 2 ^ 63 := by
    rw [Binary.distance, hbound.1, hbound.2]
    norm_num
  rw [hvalue]

/-- A float without a fraction is taken by its exact value if that is nearer to zero than 2^63. -/
theorem floatInt64?_eq_some_iff {x : Binary64} (hfinite : x.isFinite) {i : Int} :
    floatInt64? x = some i ↔ x.toRat = i ∧ -2 ^ 63 < i ∧ i < 2 ^ 63 := by
  have hwithin {k : Int} (hk : x.toRat = k) :
      x.magnitude < int64Bound.magnitude ↔ k.natAbs < 2 ^ 63 := by
    rw [magnitude_lt_int64Bound_iff, ((Binary.toRat_eq_intCast_iff x k).1 hk).1]
    exact_mod_cast Iff.rfl
  unfold floatInt64?
  constructor
  · intro h
    split at h
    · rename_i hlt
      obtain ⟨k, hk, rfl⟩ := Option.map_eq_some_iff.1 h
      have hvalue := (Binary.toInt?_eq_some_iff.1 hk).2
      have hrange := (hwithin hvalue).1 hlt
      have hclamp : clampInt64 k = k := by
        unfold clampInt64
        omega
      rw [hclamp]
      exact ⟨hvalue, by omega, by omega⟩
    · cases h
  · rintro ⟨hvalue, hleast, hgreatest⟩
    have hclamp : clampInt64 i = i := by
      unfold clampInt64
      omega
    rw [if_pos ((hwithin hvalue).2 (by omega)), Binary.toInt?_eq_some_iff.2 ⟨hfinite, hvalue⟩,
      Option.map_some, hclamp]

/-- An integer beyond the signed ones of 64 bits is none as a float either. -/
theorem floatInt64?_ofInt {i : Int} (hleast : 2 ^ 63 ≤ i) (hgreatest : i < 2 ^ 64) :
    floatInt64? (.ofInt i) = none := by
  have hbound : int64Bound.magnitude = 1086 * 2 ^ 52 := rfl
  have := Binary.le_magnitude_ofInt hleast hgreatest
  rw [floatInt64?, if_neg (by omega)]

/-- A number converts to an integer of 64 bits just if it gives this integer. -/
theorem int64?_eq_some_iff {n : Json.Number} {i : Int} :
    int64? n = some i ↔
      (Json.num n).Gives i ∧ -2 ^ 63 ≤ i ∧ i < 2 ^ 63 := by
  cases n with
  | int k hk =>
    have hgives : (Json.num (.int k hk)).Gives i ↔ k = i := by
      constructor
      · rintro ⟨⟨h⟩, -⟩
        exact Rat.intCast_inj.1 h
      · rintro rfl
        exact ⟨.number rfl, fun _ _ h => by cases h⟩
    rw [hgives]
    by_cases hlt : k < 2 ^ 63
    · rw [Scalar.int64?_int hk hlt, Option.some_inj]
      have := hk.1
      unfold Json.minInt at this
      omega
    -- beyond 63 bits the number is tried as a float, which is not below the bound either
    · have hle : k < 2 ^ 64 := by
        have := hk.2
        unfold Json.maxInt at this
        omega
      rw [int64?, Json.Number.toInt64?, if_neg hlt]
      dsimp only [Json.Number.toFloat]
      rw [floatInt64?_ofInt (by omega) hle]
      constructor
      · intro h
        cases h
      · omega
  -- the bound of a float is on its absolute value, which excludes the least integer
  | float x hfinite =>
    have hgives : (Json.num (.float x hfinite)).Gives i ↔ x.toRat = i ∧ i ≠ -2 ^ 63 := by
      constructor
      · rintro ⟨⟨h⟩, hleast⟩
        exact ⟨h, hleast x hfinite rfl⟩
      · rintro ⟨h, hleast⟩
        exact ⟨.number h, fun _ _ _ => hleast⟩
    have hint : int64? (.float x hfinite) = floatInt64? x := rfl
    rw [hgives, hint, floatInt64?_eq_some_iff hfinite]
    constructor
    · rintro ⟨h, hleast, hgreatest⟩
      exact ⟨⟨h, by omega⟩, by omega, hgreatest⟩
    · rintro ⟨⟨h, hleast⟩, hrange, hgreatest⟩
      exact ⟨h, by omega, hgreatest⟩

/-! ## Texts -/

/-- A text converts to an integer of 64 bits just if it stands for this integer. -/
theorem readInt64?_eq_some_iff {s : String} {i : Int} :
    readInt64? s = some i ↔ (Json.str s).Gives i ∧ -2 ^ 63 ≤ i ∧ i < 2 ^ 63 := by
  have hgives : (Json.str s).Gives i ↔ Text.Numeral (Text.trim s).toList i := by
    constructor
    · rintro ⟨h, -⟩
      cases h with
      | text hbefore hafter hdigits h =>
        obtain ⟨hne, hblank⟩ := hdigits.not_blank
        rwa [(Text.trim_eq_iff hne hblank).2 ⟨_, _, hbefore, hafter, h⟩]
    · intro h
      obtain ⟨hne, hblank⟩ := h.not_blank
      obtain ⟨before, after, hbefore, hafter, hs⟩ := (Text.trim_eq_iff hne hblank).1 rfl
      exact ⟨.text hbefore hafter h hs, fun _ _ h => by cases h⟩
  rw [hgives, ← Text.readInt?_eq_some_iff]
  constructor
  · intro h
    obtain ⟨k, hk, h⟩ := Option.bind_eq_some_iff.1 h
    split at h
    · rename_i hrange
      cases h
      exact ⟨hk, hrange⟩
    · cases h
  · rintro ⟨hk, hrange⟩
    exact Option.bind_eq_some_iff.2 ⟨i, hk, if_pos hrange⟩

/-- A value gives an integer of 64 bits iff it stands for it. -/
theorem integer_eq_ok_iff {j : Json} {i : Int} :
    integer j = .ok i ↔ j.Gives i ∧ -2 ^ 63 ≤ i ∧ i < 2 ^ 63 := by
  have hfault {o : Option Int} {f : Fault} : orFault f o = .ok i ↔ o = some i := by
    cases o <;> simp [orFault]
  cases j with
  | num n => rw [integer, hfault, int64?_eq_some_iff]
  | str s => rw [integer, hfault, readInt64?_eq_some_iff]
  | _ =>
    constructor
    · intro h
      cases h
    · rintro ⟨⟨h, -⟩, -⟩
      cases h

/-- A word of at most 64 bits holds the integer that the value gives. -/
theorem map_integerWithin_eq_ok_iff {α : Type} {bits : Nat} {ofInt : Int → α} {toInt : α → Int}
    (hbits : bits ≤ 64) (hleast : ∀ v, -2 ^ (bits - 1) ≤ toInt v)
    (hgreatest : ∀ v, toInt v < 2 ^ (bits - 1)) (hself : ∀ v, ofInt (toInt v) = v)
    (hexact : ∀ {i}, -2 ^ (bits - 1) ≤ i → i < 2 ^ (bits - 1) → toInt (ofInt i) = i)
    {j : Json} {v : α} :
    ofInt <$> integerWithin bits j = .ok v ↔ j.Gives (toInt v) := by
  have hwide : (2 : Int) ^ (bits - 1) ≤ 2 ^ 63 := pow_le_pow_right₀ (by decide) (by omega)
  constructor
  · intro h
    obtain ⟨i, hi, rfl⟩ := map_eq_ok_iff.1 h
    obtain ⟨k, hk, hwithin⟩ := bind_eq_ok_iff.1 hi
    split at hwithin
    · rename_i hrange
      cases hwithin
      rw [hexact hrange.1 hrange.2]
      exact (integer_eq_ok_iff.1 hk).1
    · cases hwithin
  · intro h
    have hl := hleast v
    have hg := hgreatest v
    have hint : integer j = .ok (toInt v) := integer_eq_ok_iff.2 ⟨h, by omega, by omega⟩
    refine map_eq_ok_iff.2 ⟨toInt v, ?_, hself v⟩
    exact bind_eq_ok_iff.2 ⟨toInt v, hint, if_pos ⟨hl, hg⟩⟩

end Conversion

/-! ## Integer types -/

namespace Scalar

/-- The bits of an integer type. -/
def bits? : Scalar → Option Nat
  | int2 => some 16
  | int4 => some 32
  | int8 => some 64
  | _ => none

/-- The integer that a value of an integer type is. -/
def toInt? : (s : Scalar) → s.Value → Option Int
  | int2, v => some v.toInt
  | int4, v => some v.toInt
  | int8, v => some v.toInt
  | _, _ => none

/-- An integer within the range of an integer type. -/
def InRange (s : Scalar) (i : Int) : Prop :=
  ∃ bits ∈ s.bits?, -2 ^ (bits - 1) ≤ i ∧ i < 2 ^ (bits - 1)

/-- A value is of an integer type and is what a JSON value gives. -/
def Keeps (s : Scalar) (j : Json) (v : s.Value) : Prop :=
  ∃ i ∈ s.toInt? v, j.Gives i ∧ s.InRange i

/-- A value that is an integer of its type's range keeps what gives that integer. -/
theorem keeps_iff {s : Scalar} {j : Json} {v : s.Value} {bits : Nat} {i : Int}
    (hbits : s.bits? = some bits) (hi : s.toInt? v = some i) (hleast : -2 ^ (bits - 1) ≤ i)
    (hgreatest : i < 2 ^ (bits - 1)) : s.Keeps j v ↔ j.Gives i := by
  constructor
  · rintro ⟨k, hk, h, -⟩
    obtain rfl := Option.some.inj (hi.symm.trans hk)
    exact h
  · exact fun h => ⟨i, hi, h, bits, hbits, hleast, hgreatest⟩

/-- An integer type takes the values that give an integer of its range, and takes them exactly. -/
theorem ofJson_eq_ok_iff {s : Scalar} (hs : s.bits?.isSome) {j : Json} {v : s.Value} :
    s.ofJson j = .ok v ↔ s.Keeps j v := by
  cases s with
  | int2 =>
    rw [keeps_iff rfl rfl (Int16.le_toInt v) (Int16.toInt_lt v)]
    exact Conversion.map_integerWithin_eq_ok_iff (by decide : 16 ≤ 64) Int16.le_toInt
      Int16.toInt_lt Int16.ofInt_toInt Int16.toInt_ofInt_of_le
  | int4 =>
    rw [keeps_iff rfl rfl (Int32.le_toInt v) (Int32.toInt_lt v)]
    exact Conversion.map_integerWithin_eq_ok_iff (by decide : 32 ≤ 64) Int32.le_toInt
      Int32.toInt_lt Int32.ofInt_toInt Int32.toInt_ofInt_of_le
  | int8 =>
    rw [keeps_iff rfl rfl (Int64.le_toInt v) (Int64.toInt_lt v)]
    exact Conversion.map_integerWithin_eq_ok_iff (by decide : 64 ≤ 64) Int64.le_toInt
      Int64.toInt_lt Int64.ofInt_toInt Int64.toInt_ofInt_of_le
  | _ => cases hs

theorem Keeps.ne_null {s : Scalar} {j : Json} {v : s.Value} (h : s.Keeps j v) : j ≠ .null := by
  obtain ⟨i, -, ⟨hdenotes, -⟩, -⟩ := h
  rintro rfl
  cases hdenotes

/-- An element of a list: no value for null, and otherwise what the JSON value gives. -/
def KeepsItem (s : Scalar) (j : Json) : Option s.Value → Prop
  | none => j = .null
  | some v => s.Keeps j v

end Scalar

/-- A type of a name, or a domain over one to any depth. The names of the domains stand for no
conversion of their own. -/
inductive SqlType.RestsOn (name : String) : SqlType → Prop
  | plain : RestsOn name (.plain name)
  | domain {own : String} {base : SqlType} (hown : Param.byName? own = none)
    (hbase : RestsOn name base) : RestsOn name (.domain own base)

namespace Param

/-- The integer types by name. -/
def integerTypes : List (String × Scalar) := [("INT2", .int2), ("INT4", .int4), ("INT8", .int8)]

/-- The integers that a parameter of an integer type holds, and those of a list of such, are what
the JSON value gives. -/
def Keeps (j : Json) : Param → Prop
  | scalar s v => s.bits?.isSome → s.Keeps j v
  | list s vs => s.bits?.isSome → ∃ js, j = .arr js ∧ List.Forall₂ s.KeepsItem js vs
  | _ => True

/-- An element of a list, null for none. -/
def item (s : Scalar) (j : Json) : Conversion.Result (Option s.Value) :=
  if j.isNull then pure none else some <$> s.ofJson j

theorem items_eq_mapM (s : Scalar) (js : List Json) : items s js = js.mapM (item s) := by
  induction js with
  | nil => rfl
  | cons j js ih =>
    rw [items, List.mapM_cons, ← ih, item]
    split <;> rfl

theorem item_eq_ok_none_iff {s : Scalar} {j : Json} : item s j = .ok none ↔ j = .null := by
  constructor
  · intro h
    unfold item at h
    split at h
    · exact Json.eq_null_of_isNull ‹_›
    · obtain ⟨v, -, hv⟩ := map_eq_ok_iff.1 h
      cases hv
  · rintro rfl
    rfl

/-- An element that is not null converts as it does by itself. -/
theorem item_eq_ok_some_iff {s : Scalar} {j : Json} {v : s.Value} :
    item s j = .ok (some v) ↔ j ≠ .null ∧ s.ofJson j = .ok v := by
  constructor
  · intro h
    unfold item at h
    split at h
    · cases h
    · rename_i hnull
      obtain ⟨w, hw, hv⟩ := map_eq_ok_iff.1 h
      cases hv
      refine ⟨?_, hw⟩
      rintro rfl
      exact hnull rfl
  · rintro ⟨hj, hv⟩
    rw [item, if_neg fun hnull => hj (Json.eq_null_of_isNull hnull), hv]
    rfl

/-- A list converts to elements that each keep their value. -/
theorem items_eq_ok_iff {s : Scalar} (hs : s.bits?.isSome) {js : List Json}
    {vs : List (Option s.Value)} : items s js = .ok vs ↔ List.Forall₂ s.KeepsItem js vs := by
  have hitem : (fun j v => item s j = .ok v) = s.KeepsItem := by
    funext j v
    cases v with
    | none => exact propext item_eq_ok_none_iff
    | some v =>
      rw [item_eq_ok_some_iff, Scalar.ofJson_eq_ok_iff hs]
      exact propext (and_iff_right_of_imp Scalar.Keeps.ne_null)
  rw [items_eq_mapM, mapM_eq_ok_iff, hitem]

/-! ## Any type -/

theorem keeps_of_toInt64? {n : Json.Number} {i : Int64} (h : n.toInt64? = some i) :
    Scalar.int8.Keeps (.num n) i := by
  have hint : Conversion.int64? n = some i.toInt := by rw [Conversion.int64?, h]
  exact (Scalar.keeps_iff rfl rfl (Int64.le_toInt i) (Int64.toInt_lt i)).2
    (Conversion.int64?_eq_some_iff.1 hint).1

/-- A list without a type of its own keeps the integers in it. -/
theorem keeps_naturalList (js : List Json) : (naturalList js).Keeps (.arr js) := by
  unfold naturalList
  split
  · exact fun h => by cases h
  split
  · exact fun h => by cases h
  split
  · rename_i hall
    refine fun _ => ⟨js, rfl, ?_⟩
    rw [List.all_eq_true] at hall
    rw [List.forall₂_map_right_iff, List.forall₂_same]
    intro j hj
    obtain ⟨i, hi⟩ := Option.isSome_iff_exists.1 (hall j hj)
    obtain ⟨n, hn, hint⟩ := Option.bind_eq_some_iff.1 hi
    rw [hi]
    cases j with
    | num m =>
      cases hn
      exact keeps_of_toInt64? hint
    | _ => cases hn
  split
  · exact fun h => by cases h
  · trivial

/-- A value without a type of its own keeps the integers in it. -/
theorem keeps_natural (j : Json) : (natural j).Keeps j := by
  cases j with
  | num n =>
    rw [natural]
    split
    · exact fun _ => keeps_of_toInt64? ‹_›
    · exact fun h => by cases h
  | bool b => exact fun h => by cases h
  | str s => exact fun h => by cases h
  | arr js => exact keeps_naturalList js
  | _ => trivial

/-- A conversion by the name of a type keeps the integers in a value. -/
theorem keeps_of_byName? {name : String} {conversion : Json → Conversion.Result Param} {j : Json}
    {p : Param} (hname : byName? name = some conversion) (hp : conversion j = .ok p) :
    p.Keeps j := by
  unfold byName? at hname
  -- a list, a scalar, or one of the names that hold no integer
  split at hname
  · cases hname
    unfold listOf at hp
    split at hp
    · split at hp
      · rename_i s _
        obtain ⟨vs, hvs, rfl⟩ := map_eq_ok_iff.1 hp
        exact fun hs => ⟨_, rfl, (items_eq_ok_iff hs).1 hvs⟩
      · cases hp
        exact keeps_natural _
    · cases hp
  · split at hname
    · cases hname
      obtain ⟨v, hv, rfl⟩ := map_eq_ok_iff.1 hp
      exact fun hs => (Scalar.ofJson_eq_ok_iff hs).1 hv
    · split at hname
      · cases hname
        unfold octets at hp
        split at hp
        · cases hp
          trivial
        · cases hp
      · cases hname
        cases hp
        trivial
      · cases hname
        cases hp
        trivial
      · cases hname
        cases hp
        exact keeps_natural j
      · cases hname

/-- The conversion that a name stands for, or another one in its place. -/
theorem keeps_of_getD {name : String} {other : Json → Conversion.Result Param} {j : Json}
    {p : Param} (hother : other j = .ok p → p.Keeps j)
    (hp : ((byName? name).getD other) j = .ok p) : p.Keeps j := by
  cases hname : byName? name with
  | some conversion =>
    rw [hname, Option.getD_some] at hp
    exact keeps_of_byName? hname hp
  | none =>
    rw [hname, Option.getD_none] at hp
    exact hother hp

/-- So does the conversion for a type, however deep its domains are. -/
theorem keeps_of_ofType {t : SqlType} {j : Json} {p : Param} (hp : ofType t j = .ok p) :
    p.Keeps j := by
  induction t with
  | plain name =>
    rw [ofType] at hp
    refine keeps_of_getD (fun h => ?_) hp
    cases h
    exact keeps_natural j
  | enumeration name =>
    rw [ofType] at hp
    refine keeps_of_getD (fun h => ?_) hp
    cases h
    trivial
  | domain name base ih =>
    rw [ofType] at hp
    exact keeps_of_getD ih hp

/-! ## Integer types and domains over them -/

theorem ofType_of_restsOn {name : String} {t : SqlType} (h : t.RestsOn name)
    {conversion : Json → Conversion.Result Param} (hname : byName? name = some conversion)
    (j : Json) : ofType t j = conversion j := by
  induction h with
  | plain => rw [ofType, hname, Option.getD_some]
  | domain hown _ ih => rw [ofType, hown, Option.getD_none, ih]

/-- Over domains a value converts as it does by the name that they rest on. -/
theorem ofJson_of_restsOn {name : String} {t : SqlType} (h : t.RestsOn name)
    {conversion : Json → Conversion.Result Param} (hname : byName? name = some conversion)
    {j : Json} {p : Param} :
    ofJson (some t) j = .ok p ↔ j = .null ∧ p = .null ∨ j ≠ .null ∧ conversion j = .ok p := by
  by_cases hnull : j.isNull
  · have hj : j = .null := Json.eq_null_of_isNull hnull
    subst hj
    constructor
    · intro hp
      cases hp
      exact .inl ⟨rfl, rfl⟩
    · rintro (⟨-, rfl⟩ | ⟨hj, -⟩)
      · rfl
      · exact absurd rfl hj
  · have hj : j ≠ .null := fun hj => hnull (hj ▸ rfl)
    rw [ofJson_of_isNull (Bool.eq_false_iff.2 hnull), ofType_of_restsOn h hname]
    exact ⟨fun hp => .inr ⟨hj, hp⟩, fun hp => hp.elim (fun ⟨hj', _⟩ => absurd hj' hj) And.right⟩

theorem integerTypes_spec : ∀ e ∈ integerTypes, e.2.bits?.isSome ∧ elementName? e.1 = none ∧
    Scalar.ofName? e.1 = some e.2 ∧ Scalar.ofElementName? e.1 = some e.2 := by
  decide

/-- Integers are bound exactly. Whatever the type is and however it and its domains are named, the
integers of an integer parameter are within the range of its type and are what the value stands for.
An integer type, directly or under domains with names of their own, binds null and just the values
that give an integer of its range, and a list of integers just the lists of such values and
nulls. -/
theorem integers_exact (t : SqlType) (j : Json) :
    (∀ p, ofJson (some t) j = .ok p → p.Keeps j) ∧
      ∀ e ∈ integerTypes,
        (t.RestsOn e.1 → ∀ p, ofJson (some t) j = .ok p ↔
          j = .null ∧ p = .null ∨ ∃ v, p = .scalar e.2 v ∧ e.2.Keeps j v) ∧
        (t.RestsOn (e.1 ++ "[]") → ∀ p, ofJson (some t) j = .ok p ↔
          j = .null ∧ p = .null ∨ ∃ js vs, j = .arr js ∧ p = .list e.2 vs ∧
            List.Forall₂ e.2.KeepsItem js vs) := by
  refine ⟨fun p hp => ?_, fun e he => ?_⟩
  · by_cases hnull : j.isNull
    · rw [Json.eq_null_of_isNull hnull] at hp
      cases hp
      trivial
    · rw [ofJson_of_isNull (Bool.eq_false_iff.2 hnull)] at hp
      exact keeps_of_ofType hp
  -- the three types are one case: each is known by its name, alone and in a list
  obtain ⟨hbits, helement, hscalar, hlist⟩ := integerTypes_spec e he
  constructor
  · intro ht p
    rw [ofJson_of_restsOn ht (byName?_scalar helement hscalar)]
    refine or_congr_right ⟨?_, ?_⟩
    · rintro ⟨-, hp⟩
      obtain ⟨v, hv, rfl⟩ := map_eq_ok_iff.1 hp
      exact ⟨v, rfl, (Scalar.ofJson_eq_ok_iff hbits).1 hv⟩
    · rintro ⟨v, rfl, hv⟩
      exact ⟨hv.ne_null, map_eq_ok_iff.2 ⟨v, (Scalar.ofJson_eq_ok_iff hbits).2 hv, rfl⟩⟩
  · intro ht p
    rw [ofJson_of_restsOn ht (byName?_list e.1)]
    refine or_congr_right ⟨?_, ?_⟩
    · rintro ⟨-, hp⟩
      unfold listOf at hp
      split at hp
      · rw [hlist] at hp
        obtain ⟨vs, hvs, rfl⟩ := map_eq_ok_iff.1 hp
        exact ⟨_, vs, rfl, rfl, (items_eq_ok_iff hbits).1 hvs⟩
      · cases hp
    · rintro ⟨js, vs, rfl, rfl, hvs⟩
      refine ⟨Json.noConfusion, ?_⟩
      unfold listOf
      dsimp only
      rw [hlist]
      exact map_eq_ok_iff.2 ⟨vs, (items_eq_ok_iff hbits).2 hvs, rfl⟩

/-- A list of digits with white space around them, the float -300 and a null, for small integers
under two domains. -/
theorem integers_exact_list :
    let t : SqlType := .domain "shares" (.domain "counts" (.plain "INT2[]"))
    let x : Binary64 := .ofBits 0xc072c00000000000
    let js : List Json := [.str " +0042\n", .num (.float x (by decide)), .null]
    let p : Param := .list .int2 [some 42, some (-300), none]
    t.RestsOn "INT2[]" ∧ ofJson (some t) (.arr js) = .ok p ∧ p.Keeps (.arr js) := by
  intro t x js p
  have ht : t.RestsOn ("INT2" ++ "[]") :=
    .domain (byName?_eq_none (by decide)) (.domain (byName?_eq_none (by decide)) .plain)
  have htext : Scalar.int2.Keeps (.str " +0042\n") (42 : Int16) := by
    have hdigits : Text.Numeral "+0042".toList 42 := Text.readInt?_eq_some_iff.1 (by decide)
    have hbefore : ∀ c ∈ [' '], Text.isBlank c := List.forall_mem_singleton.2 (by decide)
    have hafter : ∀ c ∈ ['\n'], Text.isBlank c := List.forall_mem_singleton.2 (by decide)
    exact (Scalar.keeps_iff rfl rfl (by decide : -2 ^ (16 - 1) ≤ (42 : Int)) (by decide)).2
      ⟨.text hbefore hafter hdigits rfl, fun _ _ h => by cases h⟩
  have hfloat : Scalar.int2.Keeps (.num (.float x (by decide))) (-300 : Int16) := by
    have hvalue : x.toInt? = some (-300) := by decide
    exact (Scalar.keeps_iff rfl rfl (by decide : -2 ^ (16 - 1) ≤ (-300 : Int)) (by decide)).2
      ⟨.number (Binary.toInt?_eq_some_iff.1 hvalue).2, fun _ _ _ => by decide⟩
  obtain ⟨hkeeps, htypes⟩ := integers_exact t (.arr js)
  have hp : ofJson (some t) (.arr js) = .ok p :=
    ((htypes ("INT2", .int2) (by decide)).2 ht p).2
      (.inr ⟨js, _, rfl, rfl, .cons htext (.cons hfloat (.cons rfl .nil))⟩)
  exact ⟨ht, hp, hkeeps p hp⟩

/-- A domain over small integers with the name of large ones, or with the name that marks an unknown
type, binds an integer that its base has not. -/
theorem not_within_base :
    let j : Json := .num (.int 100000 (by decide))
    ofJson (some (.domain "INT8" (.plain "INT2"))) j = .ok (.scalar .int8 (100000 : Int64)) ∧
      ofJson (some (.domain "?" (.plain "INT2"))) j = .ok (.scalar .int8 (100000 : Int64)) ∧
      Scalar.int8.toInt? (100000 : Int64) = some 100000 ∧ ¬ Scalar.int2.InRange 100000 := by
  intro j
  refine ⟨?_, ?_, ?_, ?_⟩
  · rfl
  · rfl
  · rfl
  · rintro ⟨_, ⟨⟩, -, h⟩
    exact absurd h (by decide)

end Param

end Postgres

end PgRole
