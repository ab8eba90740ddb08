import PgRole.Bytes
import PgRole.Yaml.Cursor

/-!
# Tags and directives of a YAML text

A tag says what kind of value a node is. It is written in full between angle brackets, or as a
handle and what follows it; a directive at the head of a document says which octets a handle stands
for. A tag is a string of octets, for what its percent escapes stand for need not be text.
-/

namespace PgRole.Yaml

/-- A tag as it is written; one that is written in full has an empty handle. -/
structure WrittenTag where
  handle : String
  suffix : Bytes
  deriving DecidableEq

/-- What is said about a document at its head. -/
inductive Directive where
  | version (major minor : Nat)
  | handle (name : String) (stem : Bytes)
  deriving DecidableEq

/-! ## Octets of a tag -/

/-- Whether a character stands for itself in a tag. -/
def isTagChar (c : Char) : Bool := isNameChar c || ";/?:@&=+$.!~*'()".toList.contains c

/-- Whether a character stands for itself where no flow collection can end. -/
def isFullTagChar (c : Char) : Bool := isTagChar c || [',', '[', ']'].contains c

/-- How many octets follow an octet in the UTF-8 form of a character, by its leading bits. -/
def followers? (b : UInt8) : Option Nat :=
  if b < 0x80 then some 0
  else if b < 0xC0 then none
  else if b < 0xE0 then some 1
  else if b < 0xF0 then some 2
  else if b < 0xF8 then some 3
  else none

/-- How many octets are due after an octet where so many are due. -/
def dueAfter? (due : Nat) (b : UInt8) : Option Nat :=
  if due = 0 then followers? b
  else if 0x80 ≤ b && b < 0xC0 then some (due - 1)
  else none

/-- The octet of two hexadecimal digits. -/
def octet? (a b : Char) : Option UInt8 := do
  let x ← Text.hexVal? a
  let y ← Text.hexVal? b
  pure (UInt8.ofNat (16 * x + y))

/-- The octets of the characters in front that a test holds of and of percent escapes, where so many
escapes are due, and what follows them. -/
def tagRun (p : Char → Bool) : Nat → List Char → Option (Bytes × List Char)
  | due, '%' :: a :: b :: r => do
    let x ← octet? a b
    let due ← dueAfter? due x
    let (bs, rest) ← tagRun p due r
    pure (x :: bs, rest)
  | due, c :: r =>
    if due ≠ 0 ∨ c = '%' then none
    else if p c then
      (tagRun p 0 r).map fun (bs, rest) => (Bytes.ofText (String.singleton c) ++ bs, rest)
    else some ([], c :: r)
  | due, [] => if due = 0 then some ([], []) else none

/-- One or more octets as in `tagRun`. -/
def tagOctets? (p : Char → Bool) (cs : List Char) : Option (Bytes × List Char) :=
  (tagRun p 0 cs).bind fun (bs, r) => if bs.isEmpty then none else some (bs, r)

/-! ## Tags -/

/-- A tag and what follows it, not yet whether a tag may end there. An exclamation mark alone is a
tag in full. -/
def readTag? : List Char → Option (WrittenTag × List Char)
  | '!' :: '<' :: r => do
    let (bs, r) ← tagOctets? isFullTagChar r
    match r with
    | '>' :: r => pure (⟨"", bs⟩, r)
    | _ => none
  | '!' :: r => do
    let name := r.takeWhile isNameChar
    match r.dropWhile isNameChar with
    | '!' :: r =>
      let (bs, r) ← tagOctets? isTagChar r
      pure (⟨String.ofList ('!' :: name ++ ['!']), bs⟩, r)
    | r =>
      let (bs, r) ← tagRun isTagChar 0 r
      let suffix := Bytes.ofText (String.ofList name) ++ bs
      pure (if suffix.isEmpty then ⟨"", Bytes.ofText "!"⟩ else ⟨"!", suffix⟩, r)
  | _ => none

/-- The tag at a cursor; it ends at white space, or at a comma in a flow collection. -/
def Cursor.takeTag? (flow : Bool) (c : Cursor) : Option (WrittenTag × Cursor) :=
  (readTag? c.rest).bind fun (t, r) =>
    if endsWord r || (flow && r.head? == some ',') then some (t, c.skipTo r) else none

/-! ## Directives -/

/-- A number of nine digits at most and what follows it. -/
def readVersionNumber? (cs : List Char) : Option (Nat × List Char) :=
  let ds := cs.takeWhile Text.isDigit
  if ds.length ≤ 9 then (Text.readNat? ds).map fun n => (n, cs.dropWhile Text.isDigit) else none

/-- Two numbers with a point between them, and what follows them. -/
def readVersion? (cs : List Char) : Option (Directive × List Char) := do
  let (major, r) ← readVersionNumber? cs
  match r with
  | '.' :: r =>
    let (minor, r) ← readVersionNumber? r
    pure (.version major minor, r)
  | _ => none

/-- The handle that a directive is about, and what follows it. -/
def readHandle? : List Char → Option (String × List Char)
  | '!' :: r =>
    let name := r.takeWhile isNameChar
    match r.dropWhile isNameChar with
    | '!' :: r => some (String.ofList ('!' :: name ++ ['!']), r)
    | r => if name.isEmpty then some ("!", r) else none
  | _ => none

/-- A handle, blanks and the octets it stands for, and what follows them. -/
def readHandleMeaning? (cs : List Char) : Option (Directive × List Char) := do
  let (name, r) ← readHandle? cs
  let (bs, rest) ← tagOctets? isFullTagChar (r.dropWhile isBlank)
  if (r.head?.any isBlank) && endsWord rest then pure (.handle name bs, rest) else none

/-- The directive of the line at a cursor, and the start of the next line. -/
def Cursor.takeDirective? (c : Cursor) : Option (Directive × Cursor) := do
  let r := c.rest.drop 1
  let body := (r.dropWhile isNameChar).dropWhile isBlank
  let (d, rest) ←
    if !endsWord (r.dropWhile isNameChar) then none
    else if r.takeWhile isNameChar = "YAML".toList then readVersion? body
    else if r.takeWhile isNameChar = "TAG".toList then readHandleMeaning? body
    else none
  let c ← (c.skipTo rest).endLine?
  pure (d, c)

end PgRole.Yaml
