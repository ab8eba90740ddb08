import PgRole.Proofs.Credentials.Resolution

/-!
# Texts between references

A text made of references and of texts without any between them. Braces stand in a reference only at
its two ends, so that no reference begins in one part and ends in the next: those that were put
there are all there are (`exists_segment`), and the text falls into just them and the characters
between (`pieces_interleaved`). So it is resolved to the texts between with the values in place of
the references, or the variables that are not set are reported in order (`resolve_interleaved`).
-/

namespace PgRole.Credentials

/-! ## Parts -/

/-- No reference stands in a text. -/
def Plain (cs : List Char) : Prop := ∀ u w v name, cs = u ++ (w ++ v) → ¬ IsReference w name

/-- A reference to a variable, and the text behind it up to the next reference. -/
structure Segment where
  reference : List Char
  name : List Char
  isReference : IsReference reference name
  after : List Char
  plain : Plain after

/-- The variable that a segment refers to. -/
def Segment.variable (g : Segment) : String := String.ofList g.name

/-- The text in front of all references, and segments behind it. -/
def interleaved (front : List Char) (gs : List Segment) : List Char :=
  front ++ gs.flatMap fun g => g.reference ++ g.after

theorem interleaved_cons (front : List Char) (g : Segment) (gs : List Segment) :
    interleaved front (g :: gs) = front ++ (g.reference ++ interleaved g.after gs) := by
  simp [interleaved]

theorem Plain.of_append {cs ds : List Char} (h : Plain (cs ++ ds)) : Plain ds := by
  rintro u w v name rfl
  exact h (cs ++ u) w v name (by simp)

/-- A text is a reference if it is read as one with nothing behind it. -/
theorem isReference_iff {cs name : List Char} :
    IsReference cs name ↔ readReference? cs = some (name, []) := by
  rw [readReference?_eq_some_iff]
  constructor
  · exact fun h => ⟨cs, h, by simp⟩
  · rintro ⟨t, ht, rfl⟩
    rwa [List.append_nil]

/-! ## Where references can stand -/

/-- Braces stand at the ends of a reference only. -/
theorem IsReference.exists_inside {w name : List Char} (h : IsReference w name) :
    ∃ inside, w = '\x7b' :: '\x7b' :: (inside ++ ['\x7d', '\x7d']) ∧ inside ≠ [] ∧
      '\x7b' ∉ inside := by
  obtain ⟨first, others, before, after, rfl, hfirst, hothers, hbefore, hafter, rfl⟩ := h
  refine ⟨before ++ 'e' :: 'n' :: 'v' :: '.' :: (first :: others) ++ after, by simp, by simp, ?_⟩
  have hblank {cs : List Char} (h : ∀ c ∈ cs, Text.isBlank c) : '\x7b' ∉ cs := fun hmem =>
    absurd (h _ hmem) (by decide)
  have hname : '\x7b' ∉ others := fun hmem => absurd (hothers _ hmem) (by decide)
  have hstart : '\x7b' ≠ first := by
    rintro rfl
    exact absurd hfirst (by decide)
  simp only [List.mem_append, List.mem_cons, not_or]
  exact ⟨⟨hblank hbefore, by decide, by decide, by decide, by decide, hstart, hname⟩, hblank hafter⟩

/-- Behind its first character, no part of a reference begins like a reference, whatever follows. -/
theorem IsReference.not_opens {w name u x v r : List Char} (h : IsReference w name)
    (hw : w = u ++ x) (hu : u ≠ []) (hx : x ≠ []) : x ++ v ≠ '\x7b' :: '\x7b' :: r := by
  obtain ⟨inside, rfl, hne, hbrace⟩ := h.exists_inside
  intro hopens
  obtain ⟨c, inside, rfl⟩ := List.exists_cons_of_ne_nil hne
  rcases u with _ | ⟨a, _ | ⟨b, u⟩⟩
  · exact hu rfl
  · -- the second brace is in front, then comes a character from inside
    obtain ⟨-, rfl⟩ := List.cons.inj hw
    obtain ⟨-, hsecond⟩ := List.cons.inj hopens
    exact hbrace (by simp [(List.cons.inj hsecond).1])
  · obtain ⟨-, hw⟩ := List.cons.inj hw
    obtain ⟨-, hw⟩ := List.cons.inj hw
    obtain ⟨d, x, rfl⟩ := List.exists_cons_of_ne_nil hx
    have hmem : d ∈ (c :: inside) ++ ['\x7d', '\x7d'] := by
      rw [hw]
      simp
    rw [(List.cons.inj hopens).1, List.mem_append] at hmem
    exact hmem.elim hbrace (by decide)

/-- Two splits of one text: the first part of one ends within the first part of the other. -/
theorem exists_of_append_eq_append {a b c d : List Char} (h : a ++ b = c ++ d)
    (hlength : a.length ≤ c.length) : ∃ x, c = a ++ x ∧ b = x ++ d := by
  rcases List.append_eq_append_iff.1 h with ⟨x, hc, hb⟩ | ⟨x, ha, hd⟩
  · exact ⟨x, hc, hb⟩
  · have hx : x = [] := by
      rw [ha, List.length_append] at hlength
      exact List.length_eq_zero_iff.1 (by omega)
    subst hx
    exact ⟨[], by simpa using ha.symm, by simpa using hd.symm⟩

/-- A plain stretch ends no later than the first reference begins. -/
theorem Plain.length_le {front r name w name' rest u v : List Char} (hfront : Plain front)
    (hr : IsReference r name) (hw : IsReference w name')
    (h : front ++ (r ++ rest) = u ++ (w ++ v)) : front.length ≤ u.length := by
  by_contra hlt
  obtain ⟨x, rfl, hx⟩ := exists_of_append_eq_append h.symm (by omega)
  by_cases hlength : w.length ≤ x.length
  · obtain ⟨y, rfl, -⟩ := exists_of_append_eq_append hx hlength
    exact hfront u w y name' rfl hw
  · obtain ⟨y, hy, hrest⟩ := exists_of_append_eq_append hx.symm (by omega)
    have hxne : x ≠ [] := by
      rintro rfl
      simp at hlt
    have hyne : y ≠ [] := by
      rintro rfl
      simp [hy] at hlength
    obtain ⟨inside, rfl, -⟩ := hr.exists_inside
    exact hw.not_opens hy hxne hyne hrest.symm

/-- A reference in a text that begins with one is this one, or stands behind it. -/
theorem IsReference.eq_or_length_le {r name w name' rest u v : List Char} (hr : IsReference r name)
    (hw : IsReference w name') (h : r ++ rest = u ++ (w ++ v)) :
    (u = [] ∧ w = r ∧ name' = name ∧ v = rest) ∨ r.length ≤ u.length := by
  by_cases hlength : r.length ≤ u.length
  · exact .inr hlength
  · left
    obtain ⟨x, hx, hrest⟩ := exists_of_append_eq_append h.symm (by omega)
    have hxne : x ≠ [] := by
      rintro rfl
      simp [hx] at hlength
    obtain rfl : u = [] := by
      by_contra hu
      obtain ⟨inside, rfl, -⟩ := hw.exists_inside
      exact hr.not_opens hx hu hxne hrest.symm
    have hread : readReference? (r ++ rest) = some (name, rest) :=
      readReference?_eq_some_iff.2 ⟨r, hr, rfl⟩
    rw [h, List.nil_append, readReference?_eq_some_iff.2 ⟨w, hw, rfl⟩] at hread
    obtain ⟨rfl, rfl⟩ := Prod.mk.inj (Option.some.inj hread)
    exact ⟨rfl, List.append_cancel_right h.symm, rfl, rfl⟩

/-- Every reference in a text made of segments is that of one of them. -/
theorem exists_segment {front u w v name : List Char} {gs : List Segment} (hfront : Plain front)
    (hw : IsReference w name) (h : interleaved front gs = u ++ (w ++ v)) :
    ∃ before g after, gs = before ++ g :: after ∧ u = interleaved front before ∧
      w = g.reference ∧ name = g.name ∧ v = interleaved g.after after := by
  induction gs generalizing front u with
  | nil => exact absurd hw (hfront u w v name (by simpa [interleaved] using h))
  | cons g gs ih =>
    rw [interleaved_cons] at h
    obtain ⟨u, rfl, hbehind⟩ := exists_of_append_eq_append h (hfront.length_le g.isReference hw h)
    rcases g.isReference.eq_or_length_le hw hbehind with ⟨rfl, rfl, rfl, rfl⟩ | hlength
    · exact ⟨[], g, gs, rfl, by simp [interleaved], rfl, rfl, rfl⟩
    · obtain ⟨u, rfl, hrest⟩ := exists_of_append_eq_append hbehind hlength
      obtain ⟨before, g', after, rfl, rfl, hw, hname, hv⟩ := ih g.plain hrest
      exact ⟨g :: before, g', after, rfl, by rw [interleaved_cons], hw, hname, hv⟩

/-! ## Pieces -/

/-- Characters in front of which no reference begins are pieces of their own. -/
theorem scans_append {front rest : List Char} {ps : List ReferencePiece}
    (h : ∀ x y, front = x ++ y → y ≠ [] → ∀ w v name, IsReference w name → y ++ rest ≠ w ++ v)
    (hrest : Scans rest ps) : Scans (front ++ rest) (front.map .char ++ ps) := by
  induction front with
  | nil => exact hrest
  | cons c front ih =>
    refine .char (fun w name v hw => h [] (c :: front) rfl (by simp) w v name hw) (ih ?_)
    rintro x y rfl
    exact h (c :: x) y rfl

/-- A text of stretches and references is scanned as just these. -/
theorem scans_interleaved {front : List Char} (hfront : Plain front) (gs : List Segment) :
    Scans (interleaved front gs) (front.map .char ++
      gs.flatMap fun g => .reference g.name :: g.after.map .char) := by
  induction gs generalizing front with
  | nil =>
    refine scans_append (fun x y hxy hy w v name hw h => ?_) .nil
    exact hfront x w v name (by rw [hxy, ← h]; simp) hw
  | cons g gs ih =>
    rw [interleaved_cons, List.flatMap_cons, List.cons_append]
    refine scans_append (fun x y hxy hy w v name hw h => ?_) (.reference g.isReference (ih g.plain))
    rw [hxy] at hfront
    have hlength := hfront.of_append.length_le (u := []) g.isReference hw h
    exact hy (List.length_eq_zero_iff.1 (by simpa using hlength))

theorem pieces_interleaved {front : List Char} (hfront : Plain front) (gs : List Segment) :
    pieces (interleaved front gs) = front.map .char ++
      gs.flatMap fun g => .reference g.name :: g.after.map .char :=
  scans_iff.1 (scans_interleaved hfront gs)

theorem filterMap_name?_map_char (cs : List Char) :
    (cs.map ReferencePiece.char).filterMap ReferencePiece.name? = [] := by
  induction cs with
  | nil => rfl
  | cons c cs ih => exact ih

theorem flatMap_expand_map_char (env : Environment) (cs : List Char) :
    (cs.map ReferencePiece.char).flatMap (ReferencePiece.expand env) = cs := by
  induction cs with
  | nil => rfl
  | cons c cs ih => exact congrArg (c :: ·) ih

/-- It refers to their variables in their order. -/
theorem referredNames_interleaved {front : List Char} (hfront : Plain front) (gs : List Segment) :
    referredNames (String.ofList (interleaved front gs)) = gs.map Segment.variable := by
  rw [referredNames_eq, String.toList_ofList, pieces_interleaved hfront, List.filterMap_append,
    filterMap_name?_map_char, List.nil_append]
  induction gs with
  | nil => rfl
  | cons g gs ih =>
    rw [List.flatMap_cons, List.cons_append, List.filterMap_cons, List.filterMap_append,
      filterMap_name?_map_char, List.nil_append, ih]
    rfl

/-- It becomes the stretches with the values between them. -/
theorem expand_interleaved {env : Environment} {front : List Char} (hfront : Plain front)
    {gs : List Segment} {value : Segment → String}
    (hvalue : ∀ g ∈ gs, env.get? g.variable = some (value g)) :
    (pieces (interleaved front gs)).flatMap (ReferencePiece.expand env) =
      front ++ gs.flatMap fun g => (value g).toList ++ g.after := by
  rw [pieces_interleaved hfront, List.flatMap_append, flatMap_expand_map_char]
  congr 1
  induction gs with
  | nil => rfl
  | cons g gs ih =>
    obtain ⟨hg, hvalue⟩ := List.forall_mem_cons.1 hvalue
    have hexpand : ReferencePiece.expand env (.reference g.name) = (value g).toList := by
      show ((env.get? g.variable).getD "").toList = _
      rw [hg, Option.getD_some]
    rw [List.flatMap_cons, List.cons_append, List.flatMap_cons, List.flatMap_append,
      flatMap_expand_map_char, hexpand, ih hvalue, List.flatMap_cons, List.append_assoc]

/-- A text that is scanned without a reference is plain. -/
theorem plain_of_scans {cs : List Char} {ps : List ReferencePiece} (h : Scans cs ps)
    (hnames : ps.filterMap ReferencePiece.name? = []) : Plain cs := by
  induction h with
  | nil =>
    rintro u w v name hnil hw
    obtain ⟨inside, rfl, -⟩ := hw.exists_inside
    simp at hnil
  | reference => simp [ReferencePiece.name?] at hnames
  | char hc _ ih =>
    rintro u w v name hcs hw
    cases u with
    | nil => exact hc w name v hw hcs
    | cons _ u =>
      obtain ⟨-, rfl⟩ := List.cons.inj hcs
      exact ih (by simpa [ReferencePiece.name?] using hnames) u w v name rfl hw

/-- A text is without references if none is found in it. -/
theorem plain_iff {cs : List Char} : Plain cs ↔ hasReference (String.ofList cs) = false := by
  rw [hasReference, Bool.not_eq_false', List.isEmpty_iff]
  constructor
  · intro h
    have hnames := referredNames_interleaved h []
    rwa [interleaved, List.flatMap_nil, List.append_nil] at hnames
  · intro h
    rw [referredNames_eq, String.toList_ofList] at h
    exact plain_of_scans (scans_pieces cs) h

/-- The segment of a reference and of a text behind it in which none is found. -/
def Segment.ofTexts (reference name after : String)
    (href : readReference? reference.toList = some (name.toList, []))
    (hafter : hasReference (String.ofList after.toList) = false) : Segment :=
  ⟨reference.toList, name.toList, isReference_iff.2 href, after.toList, plain_iff.2 hafter⟩

/-! ## Resolving -/

/-- A text with references between texts without any. Each reference in it is one of those between.
If all of their variables are set, in the environment that the file completes, it becomes the texts
with the values between them, whatever these are. If not, the error lists the variables that are not
set, in order and as often as they are referred to. Without references the text stays as it is and
the file is not read. -/
theorem resolve_interleaved {front : List Char} (hfront : Plain front) (gs : List Segment)
    (vs : Variables) :
    let s := String.ofList (interleaved front gs)
    let env := vs.set.completedBy vs.file
    (∀ u w v name, interleaved front gs = u ++ (w ++ v) → IsReference w name →
      ∃ before g after, gs = before ++ g :: after ∧ u = interleaved front before ∧
        w = g.reference ∧ name = g.name ∧ v = interleaved g.after after) ∧
    (∀ value : Segment → String, (∀ g ∈ gs, env.get? g.variable = some (value g)) →
      (vs.resolve s).1 =
        .ok (String.ofList (front ++ gs.flatMap fun g => (value g).toList ++ g.after))) ∧
    (∀ g ∈ gs, env.get? g.variable = none →
      (vs.resolve s).1.mapError (fun names => (Fault.unset names).error) =
        .error (.configuration ("Environment variable not found: " ++ ", ".intercalate
          ((gs.map Segment.variable).filter fun n => (env.get? n).isNone)))) ∧
    (gs = [] → vs.resolve s = (.ok s, vs)) ∧ (gs ≠ [] → (vs.resolve s).2 = vs.loaded) := by
  intro s env
  have hnames : referredNames s = gs.map Segment.variable := referredNames_interleaved hfront gs
  have hsettles : vs.Settles env := rfl
  have hresolve : (vs.resolve s).1 = resolve env s := (Variables.resolve_eq s hsettles).1
  have hunset : ((referredNames s).filter fun n => !env.contains n) =
      (gs.map Segment.variable).filter fun n => (env.get? n).isNone := by
    rw [hnames]
    refine List.filter_congr fun n _ => ?_
    cases h : env.get? n <;> simp [Keyed.contains, h]
  refine ⟨fun u w v name h hw => exists_segment hfront hw h, fun value hvalue => ?_,
    fun g hg hnone => ?_, ?_, fun hne => ?_⟩
  · -- all variables are set: the values stand in place of the references
    have hset : ((referredNames s).filter fun n => !env.contains n).isEmpty := by
      rw [hunset, List.isEmpty_iff, List.filter_eq_nil_iff]
      intro n hn
      obtain ⟨g, hg, rfl⟩ := List.mem_map.1 hn
      simp [hvalue g hg]
    rw [hresolve, resolve, if_pos hset, String.toList_ofList, expand_interleaved hfront hvalue]
  · -- one is not set: the names are those of the references, in their order
    have hset : ¬ ((referredNames s).filter fun n => !env.contains n).isEmpty := by
      rw [hunset, List.isEmpty_iff, List.filter_eq_nil_iff]
      intro hall
      have := hall g.variable (List.mem_map_of_mem hg)
      rw [hnone] at this
      exact this rfl
    rw [hresolve, resolve, if_neg hset, hunset]
    rfl
  · -- without a reference the text is not even looked at, nor is the file
    rintro rfl
    have hplain : hasReference s = false := by
      rw [hasReference, hnames]
      rfl
    rw [Variables.resolve, if_neg (by simp [hplain])]
  · have href : hasReference s = true := by
      rw [hasReference, hnames, Bool.not_eq_true', List.isEmpty_eq_false_iff]
      simpa using hne
    rw [Variables.resolve, if_pos href]

/-- A brace in front of a reference, a reference that breaks off in front of another, and a value
that looks like a reference; and a variable that is not set, twice. -/
theorem resolve_interleaved_braces :
    let vs : Variables :=
      ⟨Keyed.ofList [("X", "\x7b\x7b env.Y \x7d\x7d")], some "X=1\nY=2"⟩
    let s := "\x7b\x7b\x7b env.X \x7d\x7d\x7b\x7b env.X\x7b\x7benv.Y\x7d\x7d\x7d"
    let t := "\x7b\x7b env.Z \x7d\x7d\x7b\x7benv.X\x7d\x7d\x7b\x7benv.Z\x7d\x7d"
    Plain ['\x7b'] ∧ Plain [] ∧
      (vs.resolve s).1 = .ok "\x7b\x7b\x7b env.Y \x7d\x7d\x7b\x7b env.X2\x7d" ∧
      (vs.resolve t).1.mapError (fun names => (Fault.unset names).error) =
        .error (.configuration "Environment variable not found: Z, Z") := by
  intro vs s t
  let x := Segment.ofTexts "\x7b\x7b env.X \x7d\x7d" "X" "\x7b\x7b env.X" (by decide +kernel)
    (by decide +kernel)
  let y := Segment.ofTexts "\x7b\x7benv.Y\x7d\x7d" "Y" "\x7d" (by decide +kernel) (by decide +kernel)
  let z := Segment.ofTexts "\x7b\x7b env.Z \x7d\x7d" "Z" "" (by decide +kernel)
    (by decide +kernel)
  let x' := Segment.ofTexts "\x7b\x7benv.X\x7d\x7d" "X" "" (by decide +kernel) (by decide +kernel)
  let z' := Segment.ofTexts "\x7b\x7benv.Z\x7d\x7d" "Z" "" (by decide +kernel) (by decide +kernel)
  have hbrace : Plain ['\x7b'] := plain_iff.2 (by decide +kernel)
  have hnil : Plain [] := plain_iff.2 (by decide +kernel)
  obtain ⟨-, hset, -⟩ := resolve_interleaved hbrace [x, y] vs
  obtain ⟨-, -, hunset, -⟩ := resolve_interleaved hnil [z, x', z'] vs
  refine ⟨hbrace, hnil, ?_, ?_⟩
  · refine (hset (fun g => if g.variable = "X" then "\x7b\x7b env.Y \x7d\x7d" else "2") ?_).trans ?_
    · exact List.forall_mem_cons.2
        ⟨by decide +kernel, List.forall_mem_singleton.2 (by decide +kernel)⟩
    · decide +kernel
  · exact (hunset z List.mem_cons_self (by decide +kernel)).trans (by decide +kernel)

end PgRole.Credentials
