import PgRole.Yaml.Scalar
import PgRole.Yaml.Tag

/-!
# Tokens of a YAML text

A text is cut into tokens from front to back. Block collections have no marks of their own: one is
opened where an entry, a key or a value stands to the right of the collection around it, and closed
where a line begins further left. That a node is a key shows at the colon behind it, so the place in
front of a node that may be one is kept until then (`SimpleKey`), and the key's token is put in
there. `Token.all?` gives the tokens of a whole text.
-/

namespace PgRole.Yaml

/-- A piece of a text. -/
inductive Token where
  | directive (d : Directive)
  | documentStart
  | documentEnd
  | openBlockSequence
  | openBlockMapping
  | closeBlock
  | openFlowSequence
  | closeFlowSequence
  | openFlowMapping
  | closeFlowMapping
  | blockEntry
  | comma
  | key
  | value
  | alias (name : List Char)
  | anchor (name : List Char)
  | tag (t : WrittenTag)
  | scalar (plain : Bool) (text : List Char)
  deriving DecidableEq

/-- A place where a key without a mark of its own may have begun: the number of tokens before it and
where it is. A key that is required stands where nothing else can. -/
structure SimpleKey where
  before : Nat
  index : Nat
  line : Nat
  column : Nat
  required : Bool

/-- How far the cutting of a text is: the tokens so far in reverse, the column of the innermost
block (-1 outside of all) and of the blocks around it, whether a key may begin here, and for the
innermost flow collection and those around it the place where its key may have begun. -/
structure Lexer where
  cursor : Cursor
  tokens : List Token
  indent : Int
  outerIndents : List Int
  keyAllowed : Bool
  key : Option SimpleKey
  outerKeys : List (Option SimpleKey)

namespace Lexer

/-- The state at the start of a text. -/
def start (cs : List Char) : Lexer := ⟨⟨cs, 0, 0, 0⟩, [], -1, [], true, none, []⟩

/-- Whether the cursor is inside a flow collection. -/
def inFlow (l : Lexer) : Bool := !l.outerKeys.isEmpty

/-- What is left of the text. -/
def rest (l : Lexer) : List Char := l.cursor.rest

/-- Adds a token. -/
def push (t : Token) (l : Lexer) : Lexer := { l with tokens := t :: l.tokens }

/-- Adds a token of so many characters. -/
def pushOver (t : Token) (n : Nat) (l : Lexer) : Lexer :=
  { l with tokens := t :: l.tokens, cursor := l.cursor.skip n }

/-- Says whether a key may begin at the next token. -/
def allowKey (b : Bool) (l : Lexer) : Lexer := { l with keyAllowed := b }

/-! ## Keys -/

/-- Gives up the place of a key, which fails if the key is required. -/
def dropKey? (l : Lexer) : Option Lexer :=
  if l.key.any (·.required) then none else some { l with key := none }

/-- Notes that a key may begin here. -/
def noteKey? (l : Lexer) : Option Lexer :=
  if l.keyAllowed then do
    let l ← l.dropKey?
    let c := l.cursor
    let required := !l.inFlow && l.indent == c.column
    pure { l with key := some ⟨l.tokens.length, c.index, c.line, c.column, required⟩ }
  else some l

/-- A key ends on its line and within 1024 characters. -/
def isStale (c : Cursor) (k : SimpleKey) : Bool := k.line < c.line || k.index + 1024 < c.index

/-- Gives up a place that is too far back. -/
def freshKey? (c : Cursor) : Option SimpleKey → Option (Option SimpleKey)
  | none => some none
  | some k => if isStale c k then (if k.required then none else some none) else some (some k)

/-- Gives up all places that are too far back. -/
def dropStaleKeys? (l : Lexer) : Option Lexer := do
  let key ← freshKey? l.cursor l.key
  let outerKeys ← l.outerKeys.mapM (freshKey? l.cursor)
  pure { l with key := key, outerKeys := outerKeys }

/-! ## Blocks -/

/-- Opens a block at a column to the right of the innermost one, with a token in front of the last
so many. -/
def openBlock (t : Token) (column : Nat) (behind : Nat) (l : Lexer) : Lexer :=
  if !l.inFlow && l.indent < column then
    { l with
      tokens := l.tokens.take behind ++ t :: l.tokens.drop behind
      indent := column
      outerIndents := l.indent :: l.outerIndents }
  else l

/-- The tokens and columns after blocks to the right of a column are closed. -/
def closedBlocks (column : Int) :
    List Token → Int → List Int → List Token × Int × List Int
  | tokens, indent, [] => (tokens, indent, [])
  | tokens, indent, outer :: outers =>
    if column < indent then closedBlocks column (.closeBlock :: tokens) outer outers
    else (tokens, indent, outer :: outers)

/-- Closes the blocks to the right of a column. -/
def closeBlocks (column : Int) (l : Lexer) : Lexer :=
  if l.inFlow then l
  else
    let (tokens, indent, outerIndents) := closedBlocks column l.tokens l.indent l.outerIndents
    { l with tokens := tokens, indent := indent, outerIndents := outerIndents }

/-! ## Single tokens -/

/-- Steps over white space and comments in front of a token. A new line outside of flow collections
may begin with a key, and tabs are not indentation. -/
def skipSpace : Nat → Lexer → Lexer
  | 0, l => l
  | fuel + 1, l =>
    let c := l.cursor
    let c := if c.column == 0 && c.rest.head? == some '\ufeff' then c.skip 1 else c
    let tabs := l.inFlow || !l.keyAllowed
    let c := c.skipWhile fun x => x == ' ' || (tabs && x == '\t')
    let c := if c.rest.head? == some '#' then c.skipLineRest else c
    if c.rest.head?.any isBreak then
      skipSpace fuel { l with cursor := c.skipBreak, keyAllowed := l.keyAllowed || !l.inFlow }
    else { l with cursor := c }

/-- Closes all blocks in front of something that belongs to no block. -/
def leaveBlocks? (l : Lexer) : Option Lexer := (l.closeBlocks (-1)).dropKey?

/-- A directive. -/
def directive? (l : Lexer) : Option Lexer := do
  let l ← l.leaveBlocks?
  let (d, c) ← l.cursor.takeDirective?
  pure { (l.push (.directive d)).allowKey false with cursor := c }

/-- A mark of a document's start or end. -/
def marker? (t : Token) (l : Lexer) : Option Lexer :=
  l.leaveBlocks?.map fun l => (l.pushOver t 3).allowKey false

/-- The start of a flow collection. -/
def openFlow? (t : Token) (l : Lexer) : Option Lexer :=
  l.noteKey?.map fun l =>
    ({ l with key := none, outerKeys := l.key :: l.outerKeys }.pushOver t 1).allowKey true

/-- The end of a flow collection. -/
def closeFlow? (t : Token) (l : Lexer) : Option Lexer :=
  l.dropKey?.map fun l =>
    let l :=
      match l.outerKeys with
      | [] => l
      | key :: outerKeys => { l with key := key, outerKeys := outerKeys }
    (l.pushOver t 1).allowKey false

/-- A comma between entries of a flow collection. -/
def comma? (l : Lexer) : Option Lexer :=
  l.dropKey?.map fun l => (l.pushOver .comma 1).allowKey true

/-- Opens a block for an entry, a key or a value that stands here; outside of flow collections that
is only where a key may begin. -/
def openBlockHere? (t : Token) (l : Lexer) : Option Lexer :=
  if l.inFlow then some l
  else if l.keyAllowed then some (l.openBlock t l.cursor.column 0)
  else none

/-- The dash in front of an entry of a block. -/
def blockEntry? (l : Lexer) : Option Lexer := do
  let l ← l.openBlockHere? .openBlockSequence
  let l ← l.dropKey?
  pure ((l.pushOver .blockEntry 1).allowKey true)

/-- The question mark in front of a key. -/
def key? (l : Lexer) : Option Lexer := do
  let l ← l.openBlockHere? .openBlockMapping
  let l ← l.dropKey?
  pure ((l.pushOver .key 1).allowKey !l.inFlow)

/-- The colon in front of a value. A place where a key may have begun is that of its key. -/
def value? (l : Lexer) : Option Lexer :=
  match l.key with
  | some k =>
    let behind := l.tokens.length - k.before
    let tokens := l.tokens.take behind ++ .key :: l.tokens.drop behind
    let l := { l with tokens := tokens, key := none }
    let l := l.openBlock .openBlockMapping k.column (behind + 1)
    some ((l.pushOver .value 1).allowKey false)
  | none =>
    (l.openBlockHere? .openBlockMapping).map fun l => (l.pushOver .value 1).allowKey !l.inFlow

/-- The name of an alias or anchor behind its mark. -/
def named? (t : List Char → Token) (l : Lexer) : Option Lexer := do
  let l ← l.noteKey?
  let r := l.rest.drop 1
  let name := r.takeWhile isNameChar
  let after := r.dropWhile isNameChar
  let ends := endsWord after || (after.head?.any fun c => "?:,]\x7d%@`".toList.contains c)
  if name.isEmpty || !ends then none
  else pure ((l.pushOver (t name) (name.length + 1)).allowKey false)

/-- A tag. -/
def tag? (l : Lexer) : Option Lexer := do
  let l ← l.noteKey?
  let (t, c) ← l.cursor.takeTag? l.inFlow
  pure { (l.push (.tag t)).allowKey false with cursor := c }

/-- A block scalar. -/
def blockScalar? (literal : Bool) (l : Lexer) : Option Lexer := do
  let l ← l.dropKey?
  let (text, c) ← blockScalar literal l.indent l.cursor
  pure { (l.push (.scalar false text)).allowKey true with cursor := c }

/-- A quoted scalar. -/
def quotedScalar? (single : Bool) (l : Lexer) : Option Lexer := do
  let l ← l.noteKey?
  let (text, c) ← quotedScalar single l.cursor
  pure { (l.push (.scalar false text)).allowKey false with cursor := c }

/-- A plain scalar; a key may begin behind it on a line of its own. -/
def plainScalar? (l : Lexer) : Option Lexer := do
  let l ← l.noteKey?
  let (text, behindBreak, c) ← plainScalar l.inFlow (l.indent + 1).toNat l.cursor
  pure { (l.push (.scalar true text)).allowKey behindBreak with cursor := c }

/-- Characters that a plain scalar does not begin with. -/
def isIndicator (c : Char) : Bool := "-?:,[]\x7b\x7d#&*!|>'\"%@`".toList.contains c

/-- Whether a plain scalar can begin in front of a character and those after it. -/
def startsPlain (flow : Bool) (c : Char) (r : List Char) : Bool :=
  !(isBlank c || isBreak c || isIndicator c) || (c == '-' && !r.head?.any isBlank) ||
    (!flow && (c == '?' || c == ':') && !endsWord r)

/-- The token in front of a character and those after it, the white space behind us. -/
def token? (l : Lexer) (c : Char) (r : List Char) : Option Lexer :=
  let first := l.cursor.column == 0
  let apart := l.inFlow || endsWord r
  if first && c == '%' then l.directive?
  else if first && c == '-' && startsMarker l.rest then l.marker? .documentStart
  else if first && c == '.' && startsMarker l.rest then l.marker? .documentEnd
  else if c == '[' then l.openFlow? .openFlowSequence
  else if c == '\x7b' then l.openFlow? .openFlowMapping
  else if c == ']' then l.closeFlow? .closeFlowSequence
  else if c == '\x7d' then l.closeFlow? .closeFlowMapping
  else if c == ',' then l.comma?
  else if c == '-' && endsWord r then l.blockEntry?
  else if c == '?' && apart then l.key?
  else if c == ':' && apart then l.value?
  else if c == '*' then l.named? .alias
  else if c == '&' then l.named? .anchor
  else if c == '!' then l.tag?
  else if c == '|' && !l.inFlow then l.blockScalar? true
  else if c == '>' && !l.inFlow then l.blockScalar? false
  else if c == '\'' then l.quotedScalar? true
  else if c == '"' then l.quotedScalar? false
  else if startsPlain l.inFlow c r then l.plainScalar?
  else none

/-- All tokens from here on, in so many steps at most. -/
def run : Nat → Lexer → Option (List Token)
  | 0, _ => none
  | fuel + 1, l => do
    let l := l.skipSpace (l.rest.length + 1)
    let l ← l.dropStaleKeys?
    let l := l.closeBlocks l.cursor.column
    match l.rest with
    | [] => l.leaveBlocks?.map fun l => l.tokens.reverse
    | c :: r => (l.token? c r).bind (run fuel)

end Lexer

/-- The tokens of a text. A byte order mark may stand in front. -/
def Token.all? (cs : List Char) : Option (List Token) :=
  let cs := if cs.head? = some '\ufeff' then cs.drop 1 else cs
  if cs.all isAllowed then (Lexer.start cs).run (cs.length + 1) else none

end PgRole.Yaml
