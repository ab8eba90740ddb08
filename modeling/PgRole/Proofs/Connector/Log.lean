import Mathlib.Data.List.DropRight
import PgRole.Connector.Run

/-!
# What was sent and how it failed

A server and its state determine how a list of messages is answered. `Server.log` keeps of the
answers only how they failed; that is enough to say what happened on a connection: `Answered` says
that a message was answered on the connection that is open at the end of a log, and `Request.Ready`
which messages have to be before another may be sent.
-/

namespace PgRole

variable {σ : Type}

/-- The error of a result. -/
def error? {ε α : Type} : Except ε α → Option ε
  | .ok _ => none
  | .error e => some e

theorem error?_eq_some_iff {ε α : Type} {r : Except ε α} {e : ε} :
    error? r = some e ↔ r = .error e := by
  cases r <;> simp [error?]

/-- How a greeting fails. -/
def Greeting.abort? : Greeting → Option (Abort Failure)
  | failed a => some a
  | admitted | passwordDue => none

namespace Request

/-- Whether a message opens a connection. -/
def isDial : Request → Bool
  | dial .. => true
  | _ => false

/-- Whether a message has a statement executed. -/
def isExecution : Request → Bool
  | execute .. | script .. => true
  | _ => false

end Request

/-- A message and how it failed, if it did. -/
abbrev Exchange := Request × Option (Abort Failure)

namespace Server

/-- How a server fails to answer a message, if it does, and its state after that. -/
def respond (srv : Server σ) : Request → σ → Option (Abort Failure) × σ
  | .dial host port, st => (srv.dial host port st).map error? id
  | .login l, st => (srv.login l st).map Greeting.abort? id
  | .password text, st => (srv.password text st).map error? id
  | .describe sql, st => (srv.describe sql st).map error? id
  | .prepare sql, st => (srv.prepare sql st).map error? id
  | .execute sql args limit, st => (srv.execute sql args limit st).map error? id
  | .script sql, st => (srv.script sql st).map error? id
  | .ping, st => (srv.ping st).map error? id
  | .terminate, st => (srv.terminate st).map error? id

/-- The state of a server after messages. -/
def after (srv : Server σ) (st : σ) (qs : List Request) : σ :=
  qs.foldl (fun st q => (srv.respond q st).2) st

/-- Messages to a server, each with how it failed. -/
def log (srv : Server σ) : σ → List Request → List Exchange
  | _, [] => []
  | st, q :: qs => (q, (srv.respond q st).1) :: srv.log (srv.respond q st).2 qs

variable (srv : Server σ) (st : σ)

theorem after_append (qs qs' : List Request) :
    srv.after st (qs ++ qs') = srv.after (srv.after st qs) qs' :=
  List.foldl_append

/-- Messages are answered from where those before them left the server. -/
theorem log_append (qs qs' : List Request) :
    srv.log st (qs ++ qs') = srv.log st qs ++ srv.log (srv.after st qs) qs' := by
  induction qs generalizing st with
  | nil => rfl
  | cons q qs ih =>
    rw [List.cons_append, log, log, ih]
    rfl

theorem map_fst_log (qs : List Request) : (srv.log st qs).map Prod.fst = qs := by
  induction qs generalizing st with
  | nil => rfl
  | cons q qs ih => rw [log, List.map_cons, ih]

theorem mem_of_mem_log {qs : List Request} {e : Exchange} (h : e ∈ srv.log st qs) : e.1 ∈ qs := by
  rw [← srv.map_fst_log st qs]
  exact List.mem_map_of_mem h

end Server

/-! ## The open connection -/

/-- The exchanges since a connection was last opened. -/
def onConnection (l : List Exchange) : List Exchange := l.rtakeWhile fun e => !e.1.isDial

/-- What follows without dialing belongs to the same connection. -/
theorem onConnection_append {l m : List Exchange} (hm : ∀ e ∈ m, e.1.isDial = false) :
    onConnection (l ++ m) = onConnection l ++ m := by
  induction m using List.reverseRecOn with
  | nil => rw [List.append_nil, List.append_nil]
  | append_singleton m e ih =>
    have he := hm e (by simp)
    have ih := ih fun e' he' => hm e' (by simp [he'])
    rw [onConnection] at ih
    rw [onConnection, ← List.append_assoc, List.rtakeWhile_concat_pos, ih, List.append_assoc,
      onConnection]
    simp [he]

/-- A message was answered on the open connection. -/
def Answered (l : List Exchange) (q : Request) : Prop := ((q, none) : Exchange) ∈ onConnection l

/-- What has just been answered is answered on the connection. -/
theorem answered_of_last (l : List Exchange) {q : Request} (hq : q.isDial = false) :
    Answered (l ++ [(q, none)]) q := by
  rw [Answered, onConnection_append]
  · simp
  · intro e he
    rw [List.mem_singleton.1 he]
    exact hq

/-- What was answered stays so as long as no other connection is opened. -/
theorem Answered.append {l m : List Exchange} {q : Request} (h : Answered l q)
    (hm : ∀ e ∈ m, e.1.isDial = false) : Answered (l ++ m) q := by
  rw [Answered, onConnection_append hm]
  exact List.mem_append_left m h

/-- What has to be done on a connection before a message is sent: a statement is prepared before it
is executed, and if it has values, described. -/
def Request.Ready (past : List Exchange) : Request → Prop
  | execute sql args _ => Answered past (.prepare sql) ∧ (args ≠ [] → Answered past (.describe sql))
  | _ => True

end PgRole
