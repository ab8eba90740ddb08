import PgRole.Connector.Server

/-!
# Connectors

A connector is a role with its profile and at most one open connection, which it opens when it first
needs it. `Call` is a step of a connector with a server: it may fail or panic, and what it did to
the connector and the server stays. All messages to the server are kept in order in `Session.sent`.
-/

namespace PgRole

/-- A role, how it reaches its database, and whether a connection is open. -/
structure Connector where
  role : String
  profile : Profile
  isConnected : Bool

namespace Connector

/-- The connector for a role of a store, not connected. -/
def ofStore (s : Store) (role : String) : Except Credentials.Fault Connector := do
  let p ← s.resolve role
  Store.validateProfile role p
  pure ⟨role, p, false⟩

/-- Role, profile without its password, and whether a connection is open. -/
def debug (c : Connector) : String :=
  "DbHandling \x7b role: " ++ Text.quoted c.role ++ ", db_config: " ++ c.profile.debug ++
    ", connected: " ++ (if c.isConnected then "true" else "false") ++ " \x7d"

end Connector

/-- A connector, the state of its server, and the messages between them so far. -/
structure Session (σ : Type) where
  connector : Connector
  server : σ
  sent : List Request

/-- The name under which connections are opened. -/
def applicationName : String := "wakalib"

/-- A step of a connector with its server. -/
abbrev Call (σ : Type) := ExceptT (Abort Error) (StateM (Session σ))

namespace Call

variable {σ α : Type}

/-- What a step gives from a session, and the session after it. -/
def runOn (x : Call σ α) (s : Session σ) : Attempt Error α × Session σ := (ExceptT.run x).run s

/-- What is attempted without an exchange. -/
def ofAttempt (x : Attempt Error α) : Call σ α := ExceptT.mk (pure x)

/-- A result without an exchange. -/
def ofResult (r : Except Error α) : Call σ α := ofAttempt (r.mapError .error)

/-- Fails with an error. -/
def failWith (e : Error) : Call σ α := throw (.error e)

/-- Sends a message and lets the server answer. -/
def exchange (r : Request) (answer : σ → α × σ) : Call σ α := do
  let s ← get
  let (a, server) := answer s.server
  set { s with server := server, sent := s.sent ++ [r] }
  return a

/-- Opens the connection or gives it up. -/
def setConnected (b : Bool) : Call σ Unit :=
  modify fun s => { s with connector := { s.connector with isConnected := b } }

/-- Fails, and gives up the connection if it is of no more use. -/
def fail (f : Failure) : Call σ α := do
  if f.isBreaking then
    setConnected false
    failWith (.connection ("PostgreSQL connection lost: " ++ f.message))
  else failWith (.query ("PostgreSQL query failed: " ++ f.message))

/-- What the server answered; a failure counts against the connection, a panic does not. -/
def orFail : Answer α → Call σ α
  | .ok a => return a
  | .error .panic => throw .panic
  | .error (.error f) => fail f

/-- Reaches a server and is admitted by it. -/
def handshake (srv : Server σ) (p : Profile) (port : Nat) : Call σ (Answer Unit) := do
  match ← exchange (.dial p.host port) (srv.dial p.host port) with
  | .error a => return .error a
  | .ok () =>
    let login : Login := ⟨p.user, p.name, applicationName⟩
    match ← exchange (.login login) (srv.login login) with
    | .admitted => return .ok ()
    | .failed a => return .error a
    | .passwordDue => exchange (.password p.password) (srv.password p.password)

/-- Opens a connection unless one is open. -/
def connect (srv : Server σ) : Call σ Unit := do
  let c := (← get).connector
  if c.isConnected then return
  else
    match c.profile.portNumber? with
    | none =>
      failWith (.configuration
        ("Role '" ++ c.role ++ "' has an invalid port '" ++ c.profile.port ++ "'"))
    | some port =>
      match ← handshake srv c.profile port with
      | .error .panic => throw .panic
      | .error (.error f) =>
        failWith (.connection ("PostgreSQL connection failed: " ++ f.message))
      | .ok () => setConnected true

end Call

end PgRole
