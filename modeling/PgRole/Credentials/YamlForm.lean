import PgRole.Credentials.Profile
import PgRole.Yaml.Schema

/-!
# Stores from YAML

A store is a mapping of profiles, and a text in which nothing is written is the store without any.
A profile is a mapping of its fields, none missing and none twice, other entries passed over
whatever they hold. Every scalar is text where a name or text is due; the port is a text or a
natural number of 64 bits. Of two profiles for one role the last counts.
-/

namespace PgRole

open Yaml

namespace Yaml.Node

/-- The node itself, or the one that an alias in a tree refers to. -/
def follow (root : Node) : Node → Option Node
  | .alias n => root.anchored? n
  | node => some node

/-- The text of a scalar. -/
def text? (root node : Node) : Option String :=
  match root.follow node with
  | some (.scalar _ _ _ s) => some s
  | _ => none

/-- What a scalar means. -/
def meaning? (root node : Node) : Option Meaning :=
  match root.follow node with
  | some (.scalar _ tag plain s) => Meaning.ofScalar tag plain s
  | _ => none

/-- The entries of a mapping. -/
def entries? (root node : Node) : Option (List (Node × Node)) :=
  match root.follow node with
  | some (.mapping _ entries) => some entries
  | _ => none

/-- Whether a node is a plain scalar without characters. -/
def isMissing (root node : Node) : Bool :=
  match root.follow node with
  | some (.scalar _ _ plain s) => plain && s.isEmpty
  | _ => false

end Yaml.Node

namespace Profile

/-- The text of a port. -/
def portText? (m : Meaning) : Option String :=
  match m with
  | .text s => some s
  | .int i => if 0 ≤ i ∧ i < 2 ^ 64 then some (Text.natText i.toNat) else none
  | _ => none

/-- The text of a field. -/
def nodeText? (root : Node) (f : Field) (node : Node) : Option String :=
  if f = .port then (root.meaning? node).bind portText? else root.text? node

/-- The texts of the entries that are fields; an entry without a name or a field without a text is
an error. -/
def entryTexts? (root : Node) : List (Node × Node) → Option (List (Field × String))
  | [] => some []
  | (k, v) :: r => do
    let name ← root.text? k
    match fieldNamed? name with
    | none => entryTexts? root r
    | some f =>
      let s ← nodeText? root f v
      let ts ← entryTexts? root r
      pure ((f, s) :: ts)

/-- The profile of a node in a tree. -/
def ofNode? (root node : Node) : Option Profile := do
  let entries ← root.entries? node
  let ts ← entryTexts? root entries
  ofTexts? ts

end Profile

namespace Store

/-- The roles and profiles of entries. -/
def nodeEntries? (root : Node) : List (Node × Node) → Option (List (String × Profile))
  | [] => some []
  | (k, v) :: r => do
    let role ← root.text? k
    let p ← Profile.ofNode? root v
    let es ← nodeEntries? root r
    pure ((role, p) :: es)

/-- The store of a tree. -/
def ofNode? (root : Node) : Option Store :=
  if root.isMissing root then some ∅
  else ((root.entries? root).bind (nodeEntries? root)).map Keyed.ofList

/-- The store of a YAML text. -/
def ofYamlText? (s : String) : Option Store := (Node.document? s.toList).bind ofNode?

end Store

end PgRole
