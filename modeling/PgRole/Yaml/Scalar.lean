import PgRole.Yaml.Cursor

/-!
# Scalars of a YAML text

The four ways to write a scalar: plain, between single or double quotes, and as a block. Each reader
takes a cursor at the scalar and gives the text and the cursor after it. White space inside a plain
or quoted scalar is a `Gap`: blanks alone stay, a single line break becomes a space, and of more
line breaks all but the first stay.
-/

namespace PgRole.Yaml

/-- White space inside a scalar: the blanks before any line break, the first line break and the
later ones, the two lists in reverse. -/
structure Gap where
  broken : Bool
  blanks : List Char
  first : List Char
  later : List Char

namespace Gap

/-- No white space. -/
def empty : Gap := ⟨false, [], [], []⟩

/-- A line break that stands for nothing. -/
def silent : Gap := ⟨true, [], [], []⟩

/-- What the white space is read as. -/
def text (g : Gap) : List Char :=
  if g.broken then
    if g.first = ['\n'] then (if g.later = [] then [' '] else g.later.reverse)
    else g.first ++ g.later.reverse
  else g.blanks.reverse

/-- Takes white space, in so many steps at most. A tab behind a line break must not stand left of a
column. -/
def takeWithin (indent : Nat) : Nat → Gap → Cursor → Option (Gap × Cursor)
  | 0, _, _ => none
  | fuel + 1, g, c =>
    match c.rest with
    | [] => some (g, c)
    | x :: _ =>
      if isBlank x then
        if g.broken then
          if x = '\t' ∧ c.column < indent then none else takeWithin indent fuel g (c.skip 1)
        else takeWithin indent fuel { g with blanks := x :: g.blanks } (c.skip 1)
      else if isBreak x then
        let (b, c) := c.takeBreak
        if g.broken then takeWithin indent fuel { g with later := b ++ g.later } c
        else takeWithin indent fuel { g with broken := true, first := b } c
      else some (g, c)

/-- Takes white space. -/
def take (indent : Nat) (g : Gap) (c : Cursor) : Option (Gap × Cursor) :=
  takeWithin indent (c.rest.length + 1) g c

end Gap

/-! ## Plain scalars -/

/-- Whether a character has a meaning of its own inside flow collections. -/
def isFlowMark (c : Char) : Bool := [',', '[', ']', '\x7b', '\x7d'].contains c

/-- Characters of a plain scalar up to white space or an indicator, and what follows them. Inside
flow collections a colon must not stand before a mark of theirs. -/
def plainRun (flow : Bool) : List Char → Option (List Char × List Char)
  | [] => some ([], [])
  | c :: r =>
    if isBlank c || isBreak c then some ([], c :: r)
    else if flow && c == ':' && (r.head?.any fun x => isFlowMark x || x == '?') then none
    else if (c == ':' && endsWord r) || (flow && isFlowMark c) then some ([], c :: r)
    else (plainRun flow r).map fun (cs, r) => (c :: cs, r)

/-- A plain scalar: its text, whether it ends behind a line break, and the cursor after it and the
white space behind it. -/
def plainWithin (flow : Bool) (indent : Nat) :
    Nat → List Char → Gap → Cursor → Option (List Char × Bool × Cursor)
  | 0, _, _, _ => none
  | fuel + 1, out, gap, c =>
    if c.atMarker || c.rest.head? = some '#' then some (out, gap.broken, c)
    else
      match plainRun flow c.rest with
      | none => none
      | some ([], _) => some (out, gap.broken, c)
      | some (cs, r) => do
        let out := out ++ gap.text ++ cs
        let c := c.skipTo r
        if r.isEmpty || !endsWord r then pure (out, false, c)
        else
          let (gap, c) ← Gap.take indent .empty c
          if !flow && c.column < indent then pure (out, gap.broken, c)
          else plainWithin flow indent fuel out gap c

/-- A plain scalar that must not begin left of a column after its first line. -/
def plainScalar (flow : Bool) (indent : Nat) (c : Cursor) :
    Option (List Char × Bool × Cursor) :=
  plainWithin flow indent (c.rest.length + 1) [] .empty c

/-! ## Quoted scalars -/

/-- Characters between single quotes up to white space or the closing quote, and what follows
them. -/
def singleRun : List Char → List Char × List Char
  | '\'' :: '\'' :: r => let (cs, rest) := singleRun r; ('\'' :: cs, rest)
  | '\'' :: r => ([], '\'' :: r)
  | [] => ([], [])
  | c :: r =>
    if isBlank c || isBreak c then ([], c :: r)
    else let (cs, rest) := singleRun r; (c :: cs, rest)

/-- The character that one behind a backslash stands for. -/
def escape? : Char → Option Char
  | '0' => some '\x00'
  | 'a' => some '\x07'
  | 'b' => some '\x08'
  | 't' => some '\t'
  | '\t' => some '\t'
  | 'n' => some '\n'
  | 'v' => some '\x0b'
  | 'f' => some '\x0c'
  | 'r' => some '\r'
  | 'e' => some '\x1b'
  | ' ' => some ' '
  | '"' => some '"'
  | '/' => some '/'
  | '\\' => some '\\'
  | 'N' => some '\u0085'
  | '_' => some '\u00a0'
  | 'L' => some '\u2028'
  | 'P' => some '\u2029'
  | _ => none

/-- The character with a code in hexadecimal digits. -/
def codeChar? (ds : List Char) : Option Char :=
  (Text.readBase? Text.hexVal? 16 ds).bind fun n =>
    if n < 0xD800 ∨ (0xDFFF < n ∧ n < 0x110000) then some (Char.ofNat n) else none

/-- Characters between double quotes up to white space, an escaped line break or the closing quote,
and what follows them. -/
def doubleRun : List Char → Option (List Char × List Char)
  | [] => some ([], [])
  | '"' :: r => some ([], '"' :: r)
  | '\\' :: 'x' :: a :: b :: r => do
    let x ← codeChar? [a, b]
    let (cs, rest) ← doubleRun r
    pure (x :: cs, rest)
  | '\\' :: 'u' :: a :: b :: c :: d :: r => do
    let x ← codeChar? [a, b, c, d]
    let (cs, rest) ← doubleRun r
    pure (x :: cs, rest)
  | '\\' :: 'U' :: a :: b :: c :: d :: e :: f :: g :: h :: r => do
    let x ← codeChar? [a, b, c, d, e, f, g, h]
    let (cs, rest) ← doubleRun r
    pure (x :: cs, rest)
  | '\\' :: e :: r =>
    if isBreak e then some ([], '\\' :: e :: r)
    else do
      let x ← escape? e
      let (cs, rest) ← doubleRun r
      pure (x :: cs, rest)
  | ['\\'] => none
  | c :: r =>
    if isBlank c || isBreak c then some ([], c :: r)
    else (doubleRun r).map fun (cs, rest) => (c :: cs, rest)

/-- Characters between quotes of a kind. -/
def quotedRun (single : Bool) (cs : List Char) : Option (List Char × List Char) :=
  if single then some (singleRun cs) else doubleRun cs

/-- The inside of a quoted scalar and the cursor after its closing quote. -/
def quotedWithin (single : Bool) : Nat → List Char → Cursor → Option (List Char × Cursor)
  | 0, _, _ => none
  | fuel + 1, out, c =>
    if c.atMarker || c.rest.isEmpty then none
    else do
      let (cs, r) ← quotedRun single c.rest
      let out := out ++ cs
      let c := c.skipTo r
      match r with
      | [] => none
      | x :: _ =>
        if x = (if single then '\'' else '"') then pure (out, c.skip 1)
        else
          let (gap, c) ←
            if x = '\\' ∧ !single then Gap.take 0 .silent (c.skip 1).skipBreak
            else Gap.take 0 .empty c
          quotedWithin single fuel (out ++ gap.text) c

/-- A quoted scalar: its text and the cursor after it. -/
def quotedScalar (single : Bool) (c : Cursor) : Option (List Char × Cursor) :=
  quotedWithin single (c.rest.length + 1) [] (c.skip 1)

/-! ## Block scalars -/

/-- What happens to the line breaks at the end of a block. -/
inductive Chomping where
  | strip
  | clip
  | keep
  deriving DecidableEq, Repr

/-- A chomping indicator. -/
def chomping? : Char → Option Chomping
  | '+' => some .keep
  | '-' => some .strip
  | _ => none

/-- An indentation indicator: a digit other than zero. -/
def indentation? (c : Char) : Option Nat :=
  (Text.digitVal? c).bind fun n => if n = 0 then none else some n

/-- The indicators of a block in either order: chomping, and indentation or zero for none. -/
def blockHeader (c : Cursor) : Option (Chomping × Nat × Cursor) :=
  match c.rest with
  | [] => some (.clip, 0, c)
  | a :: r =>
    match chomping? a, Text.digitVal? a with
    | some ch, _ =>
      match r with
      | b :: _ =>
        if Text.isDigit b then (indentation? b).map fun n => (ch, n, c.skip 2)
        else some (ch, 0, c.skip 1)
      | [] => some (ch, 0, c.skip 1)
    | none, some _ => do
      let n ← indentation? a
      match r.head?.bind chomping? with
      | some ch => pure (ch, n, c.skip 2)
      | none => pure (.clip, n, c.skip 1)
    | none, none => some (.clip, 0, c)

/-- Steps over spaces up to a column; zero is no limit. -/
def skipSpaces (limit : Nat) (c : Cursor) : Cursor :=
  let spaces := c.rest.takeWhile (· == ' ')
  c.skip (if limit = 0 then spaces.length else min spaces.length (limit - c.column))

/-- Empty lines and the indentation of the line after them: the line breaks in reverse, the greatest
column of spaces, and the cursor. A tab must not stand in the indentation. -/
def blockBreaks (indent : Nat) :
    Nat → List Char → Nat → Cursor → Option (List Char × Nat × Cursor)
  | 0, _, _, _ => none
  | fuel + 1, breaks, widest, c =>
    let c := skipSpaces indent c
    let widest := max widest c.column
    match c.rest with
    | x :: _ =>
      if x = '\t' ∧ (indent = 0 ∨ c.column < indent) then none
      else if isBreak x then
        let (b, c) := c.takeBreak
        blockBreaks indent fuel (b ++ breaks) widest c
      else some (breaks, widest, c)
    | [] => some (breaks, widest, c)

/-- Whether a line begins with a blank. -/
def startsBlank (c : Cursor) : Bool := c.rest.head?.any isBlank

/-- The lines of a block: the text so far, the line break at its end and the ones after that in
reverse; the first line break is folded between lines that begin with no blank. -/
def blockLines (literal : Bool) (indent : Nat) :
    Nat → List Char → List Char → List Char → Bool → Cursor →
      Option (List Char × List Char × List Char × Cursor)
  | 0, _, _, _, _, _ => none
  | fuel + 1, out, first, later, afterBlank, c =>
    if c.column = indent ∧ !c.rest.isEmpty then do
      let blank := startsBlank c
      let join :=
        if !literal && first == ['\n'] && !afterBlank && !blank then
          (if later.isEmpty then [' '] else [])
        else first
      let line := c.rest.takeWhile fun x => !isBreak x
      let out := out ++ join ++ later.reverse ++ line
      let (first, c) := c.skipLineRest.takeBreak
      let (later, _, c) ← blockBreaks indent (c.rest.length + 1) [] 0 c
      blockLines literal indent fuel out first later blank c
    else some (out, first, later, c)

/-- A block scalar in a block of a column, -1 at the outermost: its text and the cursor after
it. -/
def blockScalar (literal : Bool) (outer : Int) (c : Cursor) : Option (List Char × Cursor) := do
  let (chomping, extra, c) ← blockHeader (c.skip 1)
  let c ← c.endLine?
  let given := if extra = 0 then 0 else ((max outer 0) + extra).toNat
  let (later, widest, c) ← blockBreaks given (c.rest.length + 1) [] 0 c
  let indent := if given = 0 then max widest (max (outer + 1).toNat 1) else given
  let (out, first, later, c) ← blockLines literal indent (c.rest.length + 1) [] [] later false c
  let out := if chomping = .strip then out else out ++ first
  let out := if chomping = .keep then out ++ later.reverse else out
  pure (out, c)

end PgRole.Yaml
