import PgRole.Proofs.Text.Digits
import PgRole.Sql.Exists

/-!
# What a text of conditions says

How the server understands conditions on plain columns: `column = $n` is a comparison, a text in
parentheses is understood by itself, and AND binds tighter than OR. `formula?` reads a text from
left to right and keeps, for each parenthesis that is open, the formula in front of it; it has no
answer for any other text.

* `ReadsFormula.intercalate`: operands with one word between each two of them are read as joined by
  it, in order.
* `ReadsOperand.group`: a formula in parentheses is read as an operand.
* `Formula.holds_foldl`: joined formulas hold if all of them do, or any.
-/

namespace PgRole

/-- What a join says about conditions of which each holds or not. -/
def Join.over : Join → List Bool → Bool
  | and, bs => bs.all id
  | or, bs => bs.any id

/-- The text of a join between operands. -/
def Join.spaced (j : Join) : List Char := (" " ++ j.text ++ " ").toList

namespace Sql

/-- A column is compared with a parameter. -/
structure Atom where
  column : String
  param : Nat
  deriving DecidableEq, Repr

/-- What conditions say. -/
inductive Formula where
  | atom (a : Atom)
  | joined (j : Join) (f g : Formula)
  deriving DecidableEq, Repr

namespace Formula

/-- The comparisons of a formula, in the order in which they stand. -/
def atoms : Formula → List Atom
  | atom a => [a]
  | joined _ f g => f.atoms ++ g.atoms

/-- Whether a formula holds, given which comparisons do. -/
def holds (ρ : Atom → Bool) : Formula → Bool
  | atom a => ρ a
  | joined j f g => j.over [f.holds ρ, g.holds ρ]

theorem atoms_foldl (j : Join) (f : Formula) (fs : List Formula) :
    (fs.foldl (joined j) f).atoms = (f :: fs).flatMap atoms := by
  induction fs generalizing f with
  | nil => simp
  | cons g fs ih => simp [ih, atoms]

/-- Formulas that are joined from the left hold if all of them do, or one of them, as the word
between them says. -/
theorem holds_foldl (ρ : Atom → Bool) (j : Join) (f : Formula) (fs : List Formula) :
    (fs.foldl (joined j) f).holds ρ = j.over ((f :: fs).map (holds ρ)) := by
  induction fs generalizing f with
  | nil => cases j <;> simp [Join.over]
  | cons g fs ih =>
    rw [List.foldl_cons, ih]
    cases j <;> simp [holds, Join.over, Bool.and_assoc, Bool.or_assoc]

theorem flatMap_atoms_map_atom (as : List Atom) : (as.map atom).flatMap atoms = as := by
  simp [List.flatMap_map, atoms]

theorem map_holds_map_atom (ρ : Atom → Bool) (as : List Atom) :
    (as.map atom).map (holds ρ) = as.map ρ := by
  simp [holds]

end Formula

/-! ## Splitting a text -/

/-- A unit of a text of conditions. -/
inductive Lexeme where
  | run (cs : List Char)
  | mark (c : Char)
  deriving DecidableEq, Repr

/-- A character that words and parameters are made of. -/
def isRunPart (c : Char) : Bool := Text.isWordChar c || c = '$'

/-- What follows does not go on with a run. -/
def Ended (cs : List Char) : Prop := ∀ c ∈ cs.head?, isRunPart c = false

/-- The units of a text: runs as long as they can be, and every other character by itself except
for spaces. -/
def lexemes : List Char → List Lexeme
  | [] => []
  | c :: r =>
    if isRunPart c then
      match lexemes r, r.head?.any isRunPart with
      | .run cs :: ls, true => .run (c :: cs) :: ls
      | ls, _ => .run [c] :: ls
    else if c = ' ' then lexemes r
    else .mark c :: lexemes r

theorem lexemes_space (r : List Char) : lexemes (' ' :: r) = lexemes r := by
  simp [lexemes, show isRunPart ' ' = false by decide +kernel]

theorem lexemes_mark {c : Char} (h : isRunPart c = false) (hc : c ≠ ' ') (r : List Char) :
    lexemes (c :: r) = .mark c :: lexemes r := by
  simp [lexemes, h, hc]

/-- A run is one unit in front of what does not go on with it. -/
theorem lexemes_run {w r : List Char} (hw : w ≠ []) (hall : ∀ c ∈ w, isRunPart c) (hr : Ended r) :
    lexemes (w ++ r) = .run w :: lexemes r := by
  induction w with
  | nil => exact absurd rfl hw
  | cons c w ih =>
    obtain ⟨hc, hall⟩ := List.forall_mem_cons.1 hall
    cases w with
    | nil =>
      have hhead : r.head?.any isRunPart = false := by
        cases r with
        | nil => rfl
        | cons d r => simpa using hr d rfl
      simp [lexemes, hc, hhead]
    | cons d w =>
      have hd : isRunPart d = true := hall d List.mem_cons_self
      rw [List.cons_append, lexemes, if_pos hc, ih (List.cons_ne_nil d w) hall]
      simp [hd]

/-! ## Reading a formula -/

/-- The number of a parameter. -/
def paramNumber? : List Char → Option Nat
  | '$' :: ds => Text.readNat? ds
  | _ => none

/-- The comparison of a column with a parameter. -/
def atom? (column param : List Char) : Option Atom :=
  if column.all Text.isWordChar then (paramNumber? param).map fun k => ⟨String.ofList column, k⟩
  else none

/-- The join of a word. -/
def joinWord? (word : List Char) : Option Join := Join.ofExactText? (String.ofList word)

/-- What has been read of a formula up to the end of an operand: the disjunction of all terms but
the last, and the last, to which AND would go on. -/
structure Level where
  before : Option Formula
  last : Formula

/-- The formula, if it ends here. -/
def Level.formula (l : Level) : Formula :=
  match l.before with
  | none => l.last
  | some f => .joined .or f l.last

/-- What stands in front of an operand. -/
inductive Pending where
  | start
  | after (j : Join) (l : Level)

/-- Reads an operand. AND joins it to the last term, OR begins a new one. -/
def Pending.fill : Pending → Formula → Level
  | start, f => ⟨none, f⟩
  | after .and l, f => ⟨l.before, .joined .and l.last f⟩
  | after .or l, f => ⟨some l.formula, f⟩

mutual

/-- The formula of a text that goes on with an operand, inside the parentheses that are open. -/
def operand? (stack : List Pending) (p : Pending) : List Lexeme → Option Formula
  | .mark '(' :: r => operand? (p :: stack) .start r
  | .run column :: .mark '=' :: .run param :: r =>
    (atom? column param).bind fun a => operator? stack (p.fill (.atom a)) r
  | _ => none

/-- The formula of a text that goes on behind an operand. -/
def operator? (stack : List Pending) (l : Level) : List Lexeme → Option Formula
  | [] => if stack.isEmpty then some l.formula else none
  | .mark ')' :: r =>
    match stack with
    | [] => none
    | p :: stack => operator? stack (p.fill l.formula) r
  | .run word :: r => (joinWord? word).bind fun j => operand? stack (.after j l) r
  | _ => none

end

/-- The formula of a text of conditions. -/
def formula? (cs : List Char) : Option Formula := operand? [] .start (lexemes cs)

example : formula? "(a = $1) OR b = $2 AND c = $3 AND d = $4".toList =
    some (.joined .or (.atom ⟨"a", 1⟩) (.joined .and
      (.joined .and (.atom ⟨"b", 2⟩) (.atom ⟨"c", 3⟩)) (.atom ⟨"d", 4⟩))) := by
  decide +kernel

/-! ## What is read -/

/-- A text is read as an operand, whatever stands around it. -/
def ReadsOperand (cs : List Char) (f : Formula) : Prop :=
  ∀ stack p r, Ended r →
    operand? stack p (lexemes (cs ++ r)) = operator? stack (p.fill f) (lexemes r)

/-- A text is read as a formula at the start of any parentheses. -/
def ReadsFormula (cs : List Char) (f : Formula) : Prop :=
  ∃ l : Level, l.formula = f ∧ ∀ stack r, Ended r →
    operand? stack .start (lexemes (cs ++ r)) = operator? stack l (lexemes r)

theorem ReadsFormula.formula?_eq {cs : List Char} {f : Formula} (h : ReadsFormula cs f) :
    formula? cs = some f := by
  obtain ⟨l, rfl, h⟩ := h
  have := h [] [] (by simp [Ended])
  rwa [List.append_nil] at this

theorem ended_cons {c : Char} (h : isRunPart c = false) (r : List Char) : Ended (c :: r) := by
  simpa [Ended] using h

/-- A formula in parentheses is an operand. -/
theorem ReadsOperand.group {cs : List Char} {f : Formula} (h : ReadsFormula cs f) :
    ReadsOperand ('(' :: cs ++ [')']) f := by
  intro stack p r hr
  obtain ⟨l, rfl, h⟩ := h
  have hopen : isRunPart '(' = false := by decide +kernel
  have hclose : isRunPart ')' = false := by decide +kernel
  calc operand? stack p (lexemes ('(' :: cs ++ [')'] ++ r))
      = operand? (p :: stack) .start (lexemes (cs ++ ')' :: r)) := by
        rw [List.append_assoc, List.cons_append, lexemes_mark hopen (by decide), operand?]
        rfl
    _ = operator? (p :: stack) l (lexemes (')' :: r)) := h _ _ (ended_cons hclose r)
    _ = operator? stack (p.fill l.formula) (lexemes r) := by
        rw [lexemes_mark hclose (by decide), operator?]

theorem isRunPart_of_isDigit {c : Char} (h : Text.isDigit c) : isRunPart c := by
  simp only [Text.isDigit, Text.digitVal?] at h
  split_ifs at h with hc
  · have hword : Text.isWordChar c := by
      refine Text.CharSet.contains_iff.2 ⟨(0x30, 0x39), by decide +kernel, ?_⟩
      simpa [Char.le_def, UInt32.le_iff_toNat_le] using hc
    simp [isRunPart, hword]
  · cases h

/-- The number of a parameter is read to its last digit. -/
theorem lexemes_paramText (k : Nat) {r : List Char} (hr : Ended r) :
    lexemes (paramText k ++ r) = .run (paramText k) :: lexemes r := by
  refine lexemes_run (List.cons_ne_nil _ _) (fun c hc => ?_) hr
  rcases List.mem_cons.1 hc with rfl | hc
  · decide +kernel
  · exact isRunPart_of_isDigit (Text.isDigit_of_mem_decimal hc)

theorem atom?_paramText {column : List Char} (hall : ∀ c ∈ column, Text.isWordChar c) (k : Nat) :
    atom? column (paramText k) = some ⟨String.ofList column, k⟩ := by
  have hk : Text.readNat? (Text.decimal k) = some k :=
    Text.readNat?_eq_some_iff.2 ⟨Text.decimal_ne_nil k, fun _ => Text.isDigit_of_mem_decimal,
      Text.valueOf_decimal k⟩
  rw [atom?, if_pos (by simpa using hall), paramText, paramNumber?, hk]
  rfl

/-- A column, an equals sign and a parameter are an operand. -/
theorem ReadsOperand.comparison {column : List Char} (hne : column ≠ [])
    (hall : ∀ c ∈ column, Text.isWordChar c) (k : Nat) :
    ReadsOperand (column ++ " = ".toList ++ paramText k) (.atom ⟨String.ofList column, k⟩) := by
  intro stack p r hr
  have hspace : isRunPart ' ' = false := by decide +kernel
  have hequals : isRunPart '=' = false := by decide +kernel
  have hcolumn : ∀ c ∈ column, isRunPart c := fun c hc => by simp [isRunPart, hall c hc]
  have hsplit : lexemes (column ++ " = ".toList ++ paramText k ++ r) =
      .run column :: .mark '=' :: .run (paramText k) :: lexemes r := by
    rw [List.append_assoc, List.append_assoc]
    show lexemes (column ++ ' ' :: '=' :: ' ' :: (paramText k ++ r)) = _
    rw [lexemes_run hne hcolumn (ended_cons hspace _), lexemes_space,
      lexemes_mark hequals (by decide), lexemes_space, lexemes_paramText k hr]
  rw [hsplit, operand?, atom?_paramText hall]
  rfl

/-- A word between spaces is a lexeme of its own. -/
theorem lexemes_spaced (j : Join) (r : List Char) :
    lexemes (j.spaced ++ r) = .run j.text.toList :: lexemes r := by
  have hspace : isRunPart ' ' = false := by decide +kernel
  have hword : j.text.toList.all isRunPart := by cases j <;> decide +kernel
  have hne : j.text.toList ≠ [] := by cases j <;> decide
  have := lexemes_run hne (List.all_eq_true.1 hword) (ended_cons hspace r)
  simpa [Join.spaced, lexemes_space] using this

theorem ended_spaced (j : Join) (r : List Char) : Ended (j.spaced ++ r) := by
  have hspace : isRunPart ' ' = false := by decide +kernel
  simpa [Join.spaced] using ended_cons hspace _

theorem joinWord?_text (j : Join) : joinWord? j.text.toList = some j := by
  cases j <;> rfl

/-- Operands with one join between each two of them are read one after the other. -/
theorem operand?_intercalate (j : Join) {cs : List Char} {css : List (List Char)} {f : Formula}
    {fs : List Formula} (hf : ReadsOperand cs f) (h : List.Forall₂ ReadsOperand css fs)
    (stack : List Pending) (p : Pending) {r : List Char} (hr : Ended r) :
    operand? stack p (lexemes (j.spaced.intercalate (cs :: css) ++ r)) =
      operator? stack (fs.foldl (fun l g => (Pending.after j l).fill g) (p.fill f))
        (lexemes r) := by
  induction h generalizing cs f p with
  | nil => simpa using hf stack p r hr
  | @cons ds g css gs hg h ih =>
    rw [List.intercalate_cons_cons, List.append_assoc, List.append_assoc,
      hf stack p _ (ended_spaced j _), lexemes_spaced, operator?, joinWord?_text]
    exact ih hg (.after j (p.fill f))

/-- What has been joined by one word from the start on is joined in order. -/
theorem Level.formula_foldl (j : Join) (f : Formula) (fs : List Formula) :
    (fs.foldl (fun l g => (Pending.after j l).fill g) (Pending.start.fill f)).formula =
      fs.foldl (.joined j) f := by
  cases j with
  | and =>
    -- With AND alone there is one term.
    have hlevel (f : Formula) : fs.foldl (fun l g => (Pending.after .and l).fill g) ⟨none, f⟩ =
        ⟨none, fs.foldl (.joined .and) f⟩ := by
      induction fs generalizing f with
      | nil => rfl
      | cons g fs ih => exact ih (.joined .and f g)
    rw [Pending.fill, hlevel, formula]
  | or =>
    have hformula (l : Level) : (fs.foldl (fun l g => (Pending.after .or l).fill g) l).formula =
        fs.foldl (.joined .or) l.formula := by
      induction fs generalizing l with
      | nil => rfl
      | cons g fs ih => exact ih ((Pending.after .or l).fill g)
    exact hformula _

theorem ReadsFormula.intercalate (j : Join) {cs : List Char} {css : List (List Char)} {f : Formula}
    {fs : List Formula} (hf : ReadsOperand cs f) (h : List.Forall₂ ReadsOperand css fs) :
    ReadsFormula (j.spaced.intercalate (cs :: css)) (fs.foldl (.joined j) f) :=
  ⟨_, Level.formula_foldl j f fs, fun stack _ hr => operand?_intercalate j hf h stack .start hr⟩

end Sql

end PgRole
