import PgRole.Credentials.Profile
import PgRole.Postgres.Cell

/-!
# Servers

What a connector asks of a database server and what can come back. A server is given by how it
answers, from a state of its own: nothing else is assumed of it, so that what holds for every
`Server` holds for one that refuses, hangs up or answers with nonsense at any time.

It is the server as the driver lets it be seen. What the driver keeps between two messages, such as
the statements that are prepared on a connection, belongs to the state; so a message may be answered
without a word to the database, and the driver may panic over an answer.
-/

namespace PgRole

/-- How an exchange with a server fails: the transport is lost, an answer does not belong there, the
transport is not secure, the task behind it has ended, the database says so, or else. -/
inductive Failure where
  | lost
  | garbled
  | insecure (message : String)
  | crashed
  | refused (code : Option String) (message : String)
  | other (message : String)
  deriving DecidableEq, Repr

namespace Failure

/-- The words for a failure. -/
def message : Failure → String
  | lost => "error communicating with database"
  | garbled => "encountered unexpected or invalid data"
  | insecure m => "error occurred while attempting to establish a TLS connection: " ++ m
  | crashed => "attempted to communicate with a crashed background worker"
  | refused _ m => "error returned from database: " ++ m
  | other m => m

/-- Whether a code of the database says that the connection is of no more use: it is of the class of
connection exceptions or of interventions by an operator. -/
def isBreakingCode (code : String) : Bool :=
  "08".toList.isPrefixOf code.toList || "57P".toList.isPrefixOf code.toList

/-- Whether a connection is of no more use after a failure. -/
def isBreaking : Failure → Bool
  | lost | garbled | insecure _ | crashed => true
  | refused code _ => code.any isBreakingCode
  | other _ => false

end Failure

/-- An answer, or how there is none. -/
abbrev Answer (α : Type) := Attempt Failure α

/-- Whom a connection is for. -/
structure Login where
  user : String
  database : String
  application : String
  deriving DecidableEq, Repr

/-- What a server says to a login. -/
inductive Greeting where
  | admitted
  | passwordDue
  | failed (a : Abort Failure)
  deriving DecidableEq, Repr

/-- What a server tells about a statement: the types of its parameters and the columns of its
rows. -/
structure Description where
  params : List Postgres.SqlType
  columns : List Postgres.Column

/-- What the execution of a statement brings: rows, and the tag of the command. -/
structure Reply where
  rows : List Postgres.Row
  tag : String

/-- A message to a server. A statement is described for the sake of its parameters or its columns,
and prepared to be executed. An execution has the octets of the parameters and how many rows it is
for, zero for all; a script is run without parameters. -/
inductive Request where
  | dial (host : String) (port : Nat)
  | login (l : Login)
  | password (text : String)
  | describe (sql : String)
  | prepare (sql : String)
  | execute (sql : String) (args : List (Option Bytes)) (limit : Nat)
  | script (sql : String)
  | ping
  | terminate
  deriving DecidableEq, Repr

/-- How a server answers each message from a state. -/
structure Server (σ : Type) where
  dial : String → Nat → σ → Answer Unit × σ
  login : Login → σ → Greeting × σ
  password : String → σ → Answer Unit × σ
  describe : String → σ → Answer Description × σ
  prepare : String → σ → Answer Description × σ
  execute : String → List (Option Bytes) → Nat → σ → Answer Reply × σ
  script : String → σ → Answer (List String) × σ
  ping : σ → Answer Unit × σ
  terminate : σ → Answer Unit × σ

/-- How many rows a command touched, by its tag: the number at the start of the last word, none if
it is too great. -/
def affectedRows (tag : String) : UInt64 :=
  let r := tag.toList.reverse
  if !r.contains ' ' then 0
  else
    let word := (r.takeWhile (· ≠ ' ')).reverse
    let ds :=
      match word with
      | '+' :: r => r
      | cs => cs
    let n := Text.valueOf (ds.takeWhile Text.isDigit)
    if n < 2 ^ 64 then UInt64.ofNat n else 0

example : affectedRows "INSERT 0 3" = 3 := by decide +kernel
example : affectedRows "BEGIN" = 0 := by decide +kernel

end PgRole
