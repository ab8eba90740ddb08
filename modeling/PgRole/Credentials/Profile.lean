import PgRole.Error
import PgRole.Keyed
import PgRole.Text.Blank

/-!
# Profiles and stores

A profile says how a role reaches its database. The port is kept as text, for it may be a reference
that is filled in later. A store has a profile for each role, in the order of the roles' names. The
shown forms of both never have a password.
-/

namespace PgRole

/-- How a role reaches its database. -/
structure Profile where
  name : String
  user : String
  password : String
  host : String
  port : String
  deriving DecidableEq

/-- A field of a profile. -/
inductive Profile.Field where
  | name
  | user
  | password
  | host
  | port
  deriving DecidableEq, Repr

namespace Profile

/-- All fields in order. -/
def fields : List Field := [.name, .user, .password, .host, .port]

/-- The name of a field. -/
def Field.label : Field → String
  | name => "name"
  | user => "user"
  | password => "password"
  | host => "host"
  | port => "port"

/-- The text of a field. -/
def get (p : Profile) : Field → String
  | .name => p.name
  | .user => p.user
  | .password => p.password
  | .host => p.host
  | .port => p.port

/-- The profile with another text in a field. -/
def set (p : Profile) (f : Field) (s : String) : Profile :=
  match f with
  | .name => { p with name := s }
  | .user => { p with user := s }
  | .password => { p with password := s }
  | .host => { p with host := s }
  | .port => { p with port := s }

/-- The field with a name. -/
def fieldNamed? (s : String) : Option Field := fields.find? fun f => f.label == s

/-- The text of a field that is there once. -/
def onlyText? (ts : List (Field × String)) (f : Field) : Option String :=
  match ts.filter fun t => t.1 == f with
  | [t] => some t.2
  | _ => none

/-- The profile of texts of fields. -/
def ofTexts? (ts : List (Field × String)) : Option Profile := do
  let name ← onlyText? ts .name
  let user ← onlyText? ts .user
  let password ← onlyText? ts .password
  let host ← onlyText? ts .host
  let port ← onlyText? ts .port
  pure ⟨name, user, password, host, port⟩

/-- The port of a text: a number from 1 to 65535, with an optional plus sign. -/
def readPort? (cs : List Char) : Option Nat :=
  let ds := match cs with
    | '+' :: r => r
    | cs => cs
  (Text.readNat? ds).bind fun n => if 0 < n ∧ n < 65536 then some n else none

/-- The port as a number. -/
def portNumber? (p : Profile) : Option Nat := readPort? (Text.trim p.port).toList

/-- Where a profile leads, without its password. -/
def summary (p : Profile) : String := p.user ++ "@" ++ p.host ++ ":" ++ p.port ++ "/" ++ p.name

/-- Whether a text has two characters of one kind next to each other. -/
def hasTwice (c : Char) : List Char → Bool
  | a :: b :: r => (a == c && b == c) || hasTwice c (b :: r)
  | _ => false

/-- Whether a text may have a reference: it has double braces of both kinds. -/
def mayRefer (s : String) : Bool := hasTwice '\x7b' s.toList && hasTwice '\x7d' s.toList

/-- Whether a field may have a reference. -/
def hasPlaceholders (p : Profile) : Bool := fields.any fun f => mayRefer (p.get f)

/-- All fields with the password hidden. -/
def debug (p : Profile) : String :=
  "Profile \x7b name: " ++ Text.quoted p.name ++ ", user: " ++ Text.quoted p.user ++
    ", password: " ++ Text.quoted "***" ++ ", host: " ++ Text.quoted p.host ++
    ", port: " ++ Text.quoted p.port ++ " \x7d"

end Profile

/-- A profile for each role. -/
abbrev Store := Keyed Profile

/-- Why credentials cannot be used. -/
inductive Credentials.Fault where
  | badJson
  | badYaml
  | unset (names : List String)
  | unsetInField (field : Profile.Field) (names : List String)
  | unsetInRole (role : String) (field : Profile.Field) (names : List String)
  | emptyRole
  | emptyField (role : String) (field : Profile.Field)
  | badPort (role port : String)
  | unknownRole (role : String)
  | unreadableFile (path reason : String)
  deriving DecidableEq, Repr

namespace Credentials

/-- The words for variables that are not set. -/
def unsetText (names : List String) : String :=
  "Environment variable not found: " ++ ", ".intercalate names

/-- The words for variables that are not set, in a field. -/
def unsetInFieldText (field : Profile.Field) (names : List String) : String :=
  "'" ++ field.label ++ "': " ++ unsetText names

/-- The message of a fault. -/
def Fault.message : Fault → String
  | badJson => "JSON parse error"
  | badYaml => "YAML parse error"
  | unset names => unsetText names
  | unsetInField field names => unsetInFieldText field names
  | unsetInRole role field names => "Role '" ++ role ++ "': " ++ unsetInFieldText field names
  | emptyRole => "Role name cannot be empty"
  | emptyField role field => "Role '" ++ role ++ "' has an empty '" ++ field.label ++ "'"
  | badPort role port =>
    "Role '" ++ role ++ "' has an invalid port '" ++ port ++ "': expected 1-65535"
  | unknownRole role => "Role '" ++ role ++ "' is not found in the credentials file"
  | unreadableFile path reason =>
    "Failed to read credentials file '" ++ path ++ "': " ++ reason

/-- The error of a fault. -/
def Fault.error (f : Fault) : Error := .configuration f.message

end Credentials

namespace Store

open Credentials

/-- All roles and profiles with the passwords hidden. -/
def debug (s : Store) : String :=
  "CredentialStore \x7b profiles: \x7b" ++
    ", ".intercalate (s.entries.map fun e => Text.quoted e.1 ++ ": " ++ e.2.debug) ++ "\x7d \x7d"

/-- The profile of a role. -/
def resolve (s : Store) (role : String) : Except Fault Profile :=
  match s.get? role with
  | some p => .ok p
  | none => .error (.unknownRole role)

/-- Whether a profile of a role can be used: name, user and host are not blank, and the port is
one. -/
def validateProfile (role : String) (p : Profile) : Except Fault Unit :=
  match [Profile.Field.name, .user, .host].find? fun f => Text.allBlank (p.get f) with
  | some f => .error (.emptyField role f)
  | none => if p.portNumber?.isSome then .ok () else .error (.badPort role p.port)

/-- Whether a role has a name and its profile can be used. -/
def validateEntry (role : String) (p : Profile) : Except Fault Unit :=
  if Text.allBlank role then .error .emptyRole else validateProfile role p

/-- Whether all profiles can be used; the first that cannot is reported. -/
def validate (s : Store) : Except Fault Unit :=
  s.entries.forM fun (role, p) => validateEntry role p

end Store

end PgRole
