import PgRole.Credentials.Profile
import PgRole.Json.Document
import PgRole.Json.Printer

/-!
# Stores as JSON

A store is an object of profiles. A profile is read from an object of its fields, none missing and
none twice, other members passed over whatever they hold; or from the list of its fields. The port
may be a natural number of 64 bits. Of two profiles for one role the last counts.
-/

namespace PgRole

open Json

namespace Profile

/-- The text of a field as it is written. -/
def fieldText? (f : Field) (d : Document) : Option String :=
  match d with
  | .str s => s
  | .num n =>
    if f = .port then (n.value?.bind Number.toUInt64?).map fun i => Text.natText i.toNat else none
  | _ => none

/-- The texts of the members that are fields; a name without a text or a field without one is an
error. -/
def memberTexts? : List (Option String × Document) → Option (List (Field × String))
  | [] => some []
  | (name, d) :: r => do
    let name ← name
    match fieldNamed? name with
    | none => memberTexts? r
    | some f =>
      let s ← fieldText? f d
      let ts ← memberTexts? r
      pure ((f, s) :: ts)

/-- The profile of a document. -/
def ofDocument? : Document → Option Profile
  | .obj members => (memberTexts? members).bind ofTexts?
  | .arr [name, user, password, host, port] => do
    let name ← fieldText? .name name
    let user ← fieldText? .user user
    let password ← fieldText? .password password
    let host ← fieldText? .host host
    let port ← fieldText? .port port
    pure ⟨name, user, password, host, port⟩
  | _ => none

/-- The profile as JSON. -/
def toJson (p : Profile) : Json :=
  .obj [("host", .str p.host), ("name", .str p.name), ("password", .str p.password),
    ("port", .str p.port), ("user", .str p.user)]

end Profile

namespace Store

/-- The roles and profiles of members. -/
def entries? : List (Option String × Document) → Option (List (String × Profile))
  | [] => some []
  | (role, d) :: r => do
    let role ← role
    let p ← Profile.ofDocument? d
    let es ← entries? r
    pure ((role, p) :: es)

/-- The store of a document. -/
def ofDocument? : Document → Option Store
  | .obj members => (entries? members).map Keyed.ofList
  | _ => none

/-- The store of a JSON text. -/
def ofJsonText? (s : String) : Option Store := (Document.parse? s.toList).bind ofDocument?

/-- The store as JSON. -/
def toJson (s : Store) : Json := .obj (s.entries.map fun e => (e.1, e.2.toJson))

/-- The store as JSON text. -/
def jsonText (s : Store) : String := s.toJson.text

end Store

end PgRole
