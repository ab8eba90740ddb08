import PgRole.Connector.Server

/-!
# Scripted servers

A server that answers from a list of replies: the first serves the first statement, each change of
the statement's text moves to the next, and the last one goes on. It is reached at one host and port
only. A reply may have an error or hang up at a stage, and may answer an execution with nonsense.

A statement that was described stays prepared on its connection, up to a number of them; until it is
given up for others, it is described and prepared again without a reply.
-/

namespace PgRole

namespace Script

/-- When something happens. -/
inductive Stage where
  | prepare
  | execute
  | ping
  deriving DecidableEq, Repr

/-- An error and when it comes. -/
structure Refusal where
  code : String
  message : String
  stage : Stage

/-- What is said to a statement. -/
structure Line where
  description : Description
  rows : List Postgres.Row
  tag : String
  tags : List String
  refusal : Option Refusal
  hangUp : Option Stage
  garbled : Bool

/-- A reply without parameters, columns or rows. -/
def Line.silent : Line := ⟨⟨[], []⟩, [], "SELECT 0", [], none, none, false⟩

/-- Who is let in. -/
inductive Admission where
  | anyone
  | withPassword (password : String)
  | refused (code message : String)
  | hangUp

end Script

open Script

/-- A list of replies, with how far it is: the text of the last statement, who asked for admission,
and the statements that are prepared on the connection, the last used first. -/
structure Script where
  host : String
  admission : Admission
  current : Line
  later : List Line
  last : Option String
  user : String
  prepared : List (String × Description)

namespace Script

/-- The port of a scripted server. -/
def port : Nat := 5432

/-- A script that lets nothing be said yet. -/
def start (host : String) (admission : Admission) : Script :=
  ⟨host, admission, .silent, [], none, "", []⟩

/-- The script with other replies, from the first on. -/
def withLines (s : Script) (lines : List Line) : Script :=
  { s with current := lines.headD .silent, later := lines.tail, last := none }

/-- Moves to the reply for a statement. -/
def moveTo (sql : String) (s : Script) : Script :=
  match s.last with
  | none => { s with last := some sql }
  | some last =>
    if last = sql then s
    else
      match s.later with
      | [] => { s with last := some sql }
      | l :: ls => { s with last := some sql, current := l, later := ls }

/-- The failure of a refusal. -/
def Refusal.failure (r : Refusal) : Failure := .refused (some r.code) r.message

/-- The failure of a reply at a stage, if there is one. -/
def Line.failureAt (l : Line) (stage : Stage) : Option Failure :=
  match l.refusal.filter fun r => r.stage == stage with
  | some r => some r.failure
  | none => if l.hangUp = some stage then some .lost else none

/-- The failure of a reply to an execution, if there is one. -/
def Line.executionFailure (l : Line) : Option Failure :=
  (l.failureAt .execute).or (if l.garbled then some .garbled else none)

/-- The failure of a reply to a script, if there is one; an error comes there whatever its stage. -/
def Line.scriptFailure (l : Line) : Option Failure :=
  match l.refusal with
  | some r => some r.failure
  | none => if l.hangUp = some .execute then some .lost else none

/-- An answer unless there is a failure. -/
def answer {α : Type} (f : Option Failure) (a : α) : Answer α :=
  f.elim (.ok a) fun f => .error (.error f)

/-- What is said to a login. -/
def greeting (s : Script) : Greeting :=
  match s.admission with
  | .anyone => .admitted
  | .withPassword _ => .passwordDue
  | .refused code message => .failed (.error (.refused (some code) message))
  | .hangUp => .failed (.error .lost)

/-- What is said to a password. -/
def passwordAnswer (s : Script) (password : String) : Answer Unit :=
  match s.admission with
  | .withPassword p =>
    if p = password then .ok ()
    else
      .error (.error (.refused (some "28P01")
        ("password authentication failed for user \"" ++ s.user ++ "\"")))
  | _ => .ok ()

/-- How many statements stay prepared on a connection. -/
def capacity : Nat := 100

/-- The script with a statement as the one that was prepared or used last. -/
def keep (sql : String) (d : Description) (s : Script) : Script :=
  { s with prepared := ((sql, d) :: s.prepared.filter fun p => p.1 ≠ sql).take capacity }

/-- What is said to a statement that is to be described or prepared. -/
def descriptionAnswer (s : Script) : Answer Description :=
  answer (s.current.failureAt .prepare) s.current.description

/-- The server of scripts; without a script nothing is reached. -/
def server : Server (Option Script) where
  dial host port s :=
    if s.any fun s => s.host == host && port == Script.port then
      (.ok (), s.map fun s => { s with prepared := [] })
    else (.error (.error .lost), s)
  login l s :=
    match s with
    | none => (.failed (.error .lost), s)
    | some s => (s.greeting, some { s with user := l.user })
  password p s := (s.elim (.error (.error .lost)) fun s => s.passwordAnswer p, s)
  describe sql s :=
    match s with
    | none => (.error (.error .lost), s)
    | some s =>
      match s.prepared.lookup sql with
      | some d => (.ok d, some (s.keep sql d))
      | none =>
        let s := s.moveTo sql
        match s.descriptionAnswer with
        | .ok d => (.ok d, some (s.keep sql d))
        | .error a => (.error a, some s)
  prepare sql s :=
    match s with
    | none => (.error (.error .lost), s)
    | some s =>
      match s.prepared.lookup sql with
      | some d => (.ok d, some (s.keep sql d))
      | none => ((s.moveTo sql).descriptionAnswer, some (s.moveTo sql))
  execute sql _ _ s :=
    match s.map (moveTo sql) with
    | none => (.error (.error .lost), s)
    | some s => (answer s.current.executionFailure ⟨s.current.rows, s.current.tag⟩, some s)
  script sql s :=
    match s.map (moveTo sql) with
    | none => (.error (.error .lost), s)
    | some s => (answer s.current.scriptFailure s.current.tags, some s)
  ping s := (s.elim (.error (.error .lost)) fun s => answer (s.current.failureAt .ping) (), s)
  terminate s := (.ok (), s)

end Script

end PgRole
