import PgRole.Yaml.Token

/-!
# Nodes of a YAML text

The tree of scalars, sequences and mappings that the tokens of a text describe. An alias refers to a
node by a number. A name that is anchored gets as its number how many names are known before; since
that is no new number for the name after a name that is anchored again, a number means the last node
that has it (`Node.anchored?`). `Node.document?` gives the root of a text of at most one document.
-/

namespace PgRole.Yaml

/-- A node; each but an alias may be anchored by a number. A scalar may have a tag, and is plain if
it stands without quotes or block marks. -/
inductive Node where
  | alias (number : Nat)
  | scalar (anchor : Option Nat) (tag : Option Bytes) (plain : Bool) (text : String)
  | sequence (anchor : Option Nat) (items : List Node)
  | mapping (anchor : Option Nat) (entries : List (Node × Node))

namespace Node

/-- The scalar where nothing is written. -/
def missing : Node := .scalar none none true ""

/-! ## Anchored nodes -/

mutual

/-- The last node with a number, a node coming before those in it. -/
def anchored? (n : Nat) : Node → Option Node
  | .alias _ => none
  | .scalar anchor tag plain text =>
    if anchor = some n then some (.scalar anchor tag plain text) else none
  | .sequence anchor items =>
    (anchoredItem? n items).or
      (if anchor = some n then some (.sequence anchor items) else none)
  | .mapping anchor entries =>
    (anchoredPair? n entries).or
      (if anchor = some n then some (.mapping anchor entries) else none)

/-- The last node with a number in items. -/
def anchoredItem? (n : Nat) : List Node → Option Node
  | [] => none
  | i :: r => (anchoredItem? n r).or (anchored? n i)

/-- The last node with a number in entries. -/
def anchoredPair? (n : Nat) : List (Node × Node) → Option Node
  | [] => none
  | (k, v) :: r => ((anchoredPair? n r).or (anchored? n v)).or (anchored? n k)

end

/-! ## Reading -/

/-- What is left of the tokens, what handles of tags stand for, and the numbers of names. -/
structure Reader where
  rest : List Token
  handles : List (String × Bytes)
  numbers : List (List Char × Nat)

/-- A step of reading that may fail. -/
abbrev Read := StateT Reader Option

/-- The token in front. -/
def peek : Read (Option Token) := do return (← get).rest.head?

/-- Steps over a token. -/
def skip : Read Unit := modify fun s => { s with rest := s.rest.drop 1 }

/-- Whether a token is in front; steps over it if so. -/
def accept (t : Token) : Read Bool := do
  if (← peek) = some t then
    skip
    return true
  else return false

/-- Whether one of several tokens is in front. -/
def sees (ts : List Token) : Read Bool := do return (← peek).any ts.contains

/-- The number of a name that is anchored here. -/
def anchorNumber (name : List Char) : Read Nat := do
  let s ← get
  let n := s.numbers.length
  set { s with numbers := (name, n) :: s.numbers.filter fun e => e.1 != name }
  return n

/-- The number of a name. -/
def aliasNumber (name : List Char) : Read Nat := do
  match (← get).numbers.lookup name with
  | some n => return n
  | none => failure

/-- The octets of a tag. -/
def tagOctets (t : WrittenTag) : Read Bytes := do
  if t.handle = "" then return t.suffix
  else
    match (← get).handles.lookup t.handle with
    | some stem => return stem ++ t.suffix
    | none => failure

/-- The anchor in front, if there is one. -/
def anchorHere : Read (Option Nat) := do
  match ← peek with
  | some (.anchor name) =>
    skip
    return some (← anchorNumber name)
  | _ => return none

/-- The tag in front, if there is one. -/
def tagHere : Read (Option Bytes) := do
  match ← peek with
  | some (.tag t) =>
    skip
    return some (← tagOctets t)
  | _ => return none

/-- The anchor and tag in front of a node, in either order. -/
def properties : Read (Option Nat × Option Bytes) := do
  match ← peek with
  | some (.tag _) =>
    let tag ← tagHere
    let anchor ← anchorHere
    return (anchor, tag)
  | _ =>
    let anchor ← anchorHere
    let tag ← tagHere
    return (anchor, tag)

/-- The tag that counts: an exclamation mark alone says nothing about a scalar. -/
def scalarTag (tag : Option Bytes) : Option Bytes := tag.filter fun t => t != Bytes.ofText "!"

/-- Tokens in front of which an entry of a block is missing. -/
def endsEntry : List Token := [.blockEntry, .key, .value, .closeBlock]

/-- Tokens in front of which a key or value of a block is missing. -/
def endsPart : List Token := [.key, .value, .closeBlock]

/-- Tokens in front of which a key of a flow collection is missing. -/
def endsFlowKey (close : Token) : List Token := [.value, .comma, close]

mutual

/-- A node, in so many nested steps at most. A block can stand only where `block` says so, and its
entries on the column of the mapping around it only where `flush` says so. -/
def node : Nat → Bool → Bool → Read Node
  | 0, _, _ => failure
  | fuel + 1, block, flush => do
    match ← peek with
    | some (.alias name) =>
      skip
      return .alias (← aliasNumber name)
    | _ =>
      let (anchor, tag) ← properties
      match ← peek with
      | some .blockEntry =>
        if flush then return .sequence anchor (← flushEntries fuel) else bare anchor tag
      | some (.scalar plain text) =>
        skip
        return .scalar anchor (scalarTag tag) plain (String.ofList text)
      | some .openFlowSequence =>
        skip
        return .sequence anchor (← flowItems fuel true)
      | some .openFlowMapping =>
        skip
        return .mapping anchor (← flowEntries fuel true)
      | some .openBlockSequence =>
        if block then
          skip
          return .sequence anchor (← blockItems fuel)
        else bare anchor tag
      | some .openBlockMapping =>
        if block then
          skip
          return .mapping anchor (← blockEntries fuel)
        else bare anchor tag
      | _ => bare anchor tag

/-- Nothing behind an anchor or a tag, which is a scalar without characters. -/
def bare (anchor : Option Nat) (tag : Option Bytes) : Read Node :=
  if anchor.isSome || tag.isSome then return .scalar anchor tag true "" else failure

/-- A node of a block, or nothing in front of tokens. -/
def blockPart : Nat → Bool → List Token → Read Node
  | 0, _, _ => failure
  | fuel + 1, flush, ends => do
    if ← sees ends then return missing else node fuel true flush

/-- A node of a flow collection, or nothing in front of tokens. -/
def flowPart : Nat → List Token → Read Node
  | 0, _ => failure
  | fuel + 1, ends => do
    if ← sees ends then return missing else node fuel false false

/-- The items of a block sequence up to its end. -/
def blockItems : Nat → Read (List Node)
  | 0 => failure
  | fuel + 1 => do
    if ← accept .blockEntry then
      let item ← blockPart fuel false [.blockEntry, .closeBlock]
      return item :: (← blockItems fuel)
    else if ← accept .closeBlock then return []
    else failure

/-- The items of a sequence on the column of the mapping around it. -/
def flushEntries : Nat → Read (List Node)
  | 0 => failure
  | fuel + 1 => do
    if ← accept .blockEntry then
      let item ← blockPart fuel false endsEntry
      return item :: (← flushEntries fuel)
    else return []

/-- The entries of a block mapping up to its end. -/
def blockEntries : Nat → Read (List (Node × Node))
  | 0 => failure
  | fuel + 1 => do
    if ← accept .key then
      let key ← blockPart fuel true endsPart
      let value ← if ← accept .value then blockPart fuel true endsPart else pure missing
      return (key, value) :: (← blockEntries fuel)
    else if ← accept .closeBlock then return []
    else failure

/-- The value behind a key of a flow collection. -/
def flowValue : Nat → Token → Read Node
  | 0, _ => failure
  | fuel + 1, close => do
    if ← accept .value then flowPart fuel [.comma, close] else return missing

/-- The items of a flow sequence up to its end, the first one needing no comma in front. An item
with a key is a mapping of one entry; where that key is missing the token in its place goes with
it. -/
def flowItems : Nat → Bool → Read (List Node)
  | 0, _ => failure
  | fuel + 1, first => do
    if ← accept .closeFlowSequence then return []
    else
      let separated ← if first then pure true else accept .comma
      if !separated then failure
      else if ← accept .key then
        let ends := endsFlowKey .closeFlowSequence
        let missed ← sees ends
        let key ← flowPart fuel ends
        if missed then skip
        let value ← flowValue fuel .closeFlowSequence
        return .mapping none [(key, value)] :: (← flowItems fuel false)
      else if ← accept .closeFlowSequence then return []
      else
        let item ← node fuel false false
        return item :: (← flowItems fuel false)

/-- The entries of a flow mapping up to its end, the first one needing no comma in front. -/
def flowEntries : Nat → Bool → Read (List (Node × Node))
  | 0, _ => failure
  | fuel + 1, first => do
    if ← accept .closeFlowMapping then return []
    else
      let separated ← if first then pure true else accept .comma
      if !separated then failure
      else if ← accept .key then
        let key ← flowPart fuel (endsFlowKey .closeFlowMapping)
        let value ← flowValue fuel .closeFlowMapping
        return (key, value) :: (← flowEntries fuel false)
      else if ← accept .closeFlowMapping then return []
      else
        let key ← node fuel false false
        return (key, missing) :: (← flowEntries fuel false)

end

/-! ## Documents -/

/-- What handles stand for where no directive says so. -/
def knownHandles : List (String × Bytes) :=
  [("!", Bytes.ofText "!"), ("!!", Bytes.ofText "tag:yaml.org,2002:")]

/-- The handles that directives define, and the tokens behind the directives. There can be one
version, 1.1 or 1.2, and a handle is defined once. -/
def readDirectives? :
    Bool → List (String × Bytes) → List Token → Option (List (String × Bytes) × List Token)
  | versioned, handles, .directive (.version major minor) :: ts =>
    if versioned || major != 1 || (minor != 1 && minor != 2) then none
    else readDirectives? true handles ts
  | versioned, handles, .directive (.handle name stem) :: ts =>
    if (handles.lookup name).isSome then none
    else readDirectives? versioned ((name, stem) :: handles) ts
  | _, handles, ts => some (handles, ts)

/-- The root behind the mark of a document's start. -/
def marked (fuel : Nat) : Read Node := do
  match ← peek with
  | none | some .documentStart | some .documentEnd | some (.directive _) => return missing
  | _ => node fuel true false

/-- The root of the document of tokens, with marks of its end but nothing else behind it. -/
def ofTokens? (ts : List Token) : Option Node := do
  let (handles, rest) ← readDirectives? false [] ts
  let fuel := 4 * ts.length + 16
  let state (rest : List Token) : Reader := ⟨rest, handles ++ knownHandles, []⟩
  let (root, s) ←
    match ts, rest with
    | [], _ => some (missing, state [])
    | _, .documentStart :: r => (marked fuel).run (state r)
    | .directive _ :: _, _ => none
    | _, _ => (node fuel true false).run (state ts)
  if s.rest.all (· == .documentEnd) then some root else none

/-- The root of a text; that of a text without a document is the scalar where nothing is
written. -/
def document? (cs : List Char) : Option Node := (Token.all? cs).bind ofTokens?

end Node

end PgRole.Yaml
