import Mathlib.Data.List.Forall2
import PgRole.Proofs.Connector.Log
import PgRole.Proofs.Except
import PgRole.Postgres.Binary
import PgRole.Postgres.Conversion
import PgRole.Sql.Bound

/-!
# The course of a call

`Course` says all that is kept to from one session to another during a call or a part of one: which
messages go out, where they stop, which statements they execute, and what becomes of the connection.
Courses compose (`Course.trans`, `Course.stop`).

`Triple` is the program logic over it: from a sound session that satisfies `P`, a call takes some
course in which it executes the statements `bs`, and if it gives a value, `Q` holds of the value and
of the session after it. There is one rule a construct; `Triple.exchange` is the rule of a message
whose failure counts against the connection.
-/

namespace PgRole

open Sql

variable {σ α β : Type}

/-! ## How messages end -/

/-- How a call ends tells how an exchange failed. An error has the message of the failure, and is
not one of a query if the connection is of no more use; a panic goes through. -/
inductive Abort.Reports : Abort Error → Abort Failure → Prop where
  | error {e : Error} {f : Failure}
      (kind : e.kind = .connection ∨ e.kind = .query ∧ f.isBreaking = false)
      (message : ∃ before, e.message = before ++ f.message) : Reports (.error e) (.error f)
  | panic : Reports .panic .panic

/-- Nothing failed, unless it was the last; then the call ended with it. -/
inductive Ends : List Exchange → Option (Abort Error) → Prop where
  | well {l : List Exchange} {e : Option (Abort Error)} (h : ∀ x ∈ l, x.2 = none) : Ends l e
  | failed {l : List Exchange} {q : Request} {a : Abort Failure} {e : Abort Error}
      (h : ∀ x ∈ l, x.2 = none) (he : e.Reports a) : Ends (l ++ [(q, some a)]) (some e)

theorem Ends.all {l : List Exchange} (h : Ends l none) : ∀ x ∈ l, x.2 = none := by
  cases h with
  | well h => exact h

/-- Messages that did not fail may stand in front. -/
theorem Ends.append {l m : List Exchange} {e : Option (Abort Error)} (hl : ∀ x ∈ l, x.2 = none)
    (hm : Ends m e) : Ends (l ++ m) e := by
  cases hm with
  | well h => exact .well fun x hx => (List.mem_append.1 hx).elim (hl x) (h x)
  | failed h he =>
    rw [← List.append_assoc]
    exact .failed (fun x hx => (List.mem_append.1 hx).elim (hl x) (h x)) he

/-! ## What messages execute -/

/-- A message executes a statement: with its values, converted and encoded, or as a script if it has
none. -/
def Request.Executes (b : Bound) : Request → Prop
  | .execute sql args _ => sql = b.sql ∧ ∃ types kinds params,
      Postgres.Param.all types b.args = .ok params ∧ args = Postgres.Param.encodeAll kinds params
  | .script sql => sql = b.sql ∧ b.args = []
  | _ => False

/-- Messages execute statements in their order, each once. All of them are, unless the call was cut
short. -/
def Executed (bs : List Bound) (qs : List Request) (e : Option (Abort Error)) : Prop :=
  ∃ done rest, bs = done ++ rest ∧ (e = none → rest = []) ∧
    List.Forall₂ (fun b q => q.Executes b) done (qs.filter Request.isExecution)

/-- Statements that were all executed stand in front of those after them. -/
theorem Executed.append {bs bs' : List Bound} {qs qs' : List Request} {e : Option (Abort Error)}
    (h : Executed bs qs none) (h' : Executed bs' qs' e) :
    Executed (bs ++ bs') (qs ++ qs') e := by
  obtain ⟨done, rest, rfl, hrest, hq⟩ := h
  obtain ⟨done', rest', rfl, hrest', hq'⟩ := h'
  refine ⟨done ++ done', rest', ?_, hrest', ?_⟩
  · rw [hrest rfl, List.append_nil, List.append_assoc]
  · rw [List.filter_append]
    exact List.rel_append hq hq'

theorem Executed.any {bs : List Bound} {qs : List Request} (e : Option (Abort Error))
    (h : Executed bs qs none) : Executed bs qs e := by
  obtain ⟨done, rest, hbs, hrest, hq⟩ := h
  exact ⟨done, rest, hbs, fun _ => hrest rfl, hq⟩

/-- Where a call ended early, there may have been more to execute. -/
theorem Executed.weaken {bs : List Bound} {qs : List Request} {e : Abort Error} (bs' : List Bound)
    (h : Executed bs qs (some e)) : Executed (bs ++ bs') qs (some e) := by
  obtain ⟨done, rest, rfl, -, hq⟩ := h
  refine ⟨done, rest ++ bs', List.append_assoc .., fun h => ?_, hq⟩
  cases h

/-- Every message in a log was ready to be sent; the log begins after another. -/
def AllReady (past : List Exchange) : List Exchange → Prop
  | [] => True
  | x :: l => x.1.Ready past ∧ AllReady (past ++ [x]) l

theorem Request.ready_of_not_isExecution {q : Request} (h : q.isExecution = false)
    (past : List Exchange) : q.Ready past := by
  cases q with
  | execute => cases h
  | _ => trivial

theorem allReady_of_forall {past l : List Exchange} (h : ∀ x ∈ l, x.1.isExecution = false) :
    AllReady past l := by
  induction l generalizing past with
  | nil => trivial
  | cons x l ih =>
    obtain ⟨hx, h⟩ := List.forall_mem_cons.1 h
    exact ⟨x.1.ready_of_not_isExecution hx past, ih h⟩

/-- Messages may be sent if the first ones may, and the others after these. -/
theorem allReady_append {past l m : List Exchange} :
    AllReady past (l ++ m) ↔ AllReady past l ∧ AllReady (past ++ l) m := by
  induction l generalizing past with
  | nil => simp [AllReady]
  | cons x l ih => simp [AllReady, ih, and_assoc]

/-- Messages that open one connection, and execute nothing. -/
structure Dialing (qs : List Request) : Prop where
  once : qs.countP Request.isDial = 1
  first : qs.head?.all Request.isDial
  runs : ∀ q ∈ qs, q.isExecution = false

theorem Dialing.cons (host : String) (port : Nat) (qs : List Request)
    (h : ∀ q ∈ qs, q.isDial = false ∧ q.isExecution = false) :
    Dialing (.dial host port :: qs) where
  once := by
    rw [List.countP_cons, List.countP_eq_zero.2 fun q hq => by simp [h q hq]]
    rfl
  first := rfl
  runs q hq := by
    rcases List.mem_cons.1 hq with rfl | hq
    · rfl
    · exact (h q hq).2

theorem Dialing.ne_nil {qs : List Request} (h : Dialing qs) : qs ≠ [] := by
  rintro rfl
  cases h.once

theorem Dialing.filter_isExecution {qs : List Request} (h : Dialing qs) :
    qs.filter Request.isExecution = [] := by
  simpa using h.runs

/-! ## Courses -/

namespace Session

/-- What holds of a session between any two messages: there is a port to connect to, and the server
is where the messages have led it. -/
structure Sound (srv : Server σ) (st : σ) (s : Session σ) : Prop where
  port : s.connector.profile.portNumber?.isSome
  server : s.server = srv.after st s.sent

/-- How many connections are open. -/
def up (s : Session σ) : Nat := s.connector.isConnected.toNat

theorem up_le (s : Session σ) : s.up ≤ 1 := Bool.toNat_le _

/-- A session after messages to the server. -/
def told (srv : Server σ) (s : Session σ) (qs : List Request) : Session σ :=
  { s with server := srv.after s.server qs, sent := s.sent ++ qs }

/-- A session whose connection is open or not. -/
def withConnected (s : Session σ) (b : Bool) : Session σ :=
  { s with connector := { s.connector with isConnected := b } }

variable {srv : Server σ} {st : σ} {s : Session σ}

theorem told_told (s : Session σ) (qs qs' : List Request) :
    (s.told srv qs).told srv qs' = s.told srv (qs ++ qs') := by
  rw [told, told, told, srv.after_append, List.append_assoc]

theorem withConnected_self {b : Bool} (h : s.connector.isConnected = b) :
    s.withConnected b = s := by
  subst h
  rfl

theorem Sound.told (hs : s.Sound srv st) (qs : List Request) : (s.told srv qs).Sound srv st where
  port := hs.port
  server := by
    show srv.after s.server qs = srv.after st (s.sent ++ qs)
    rw [srv.after_append, hs.server]

theorem Sound.withConnected (hs : s.Sound srv st) (b : Bool) :
    (s.withConnected b).Sound srv st := ⟨hs.port, hs.server⟩

/-- What was answered on the connection stays answered as long as no other is opened. -/
theorem Sound.answered_told {q q' : Request} (hs : s.Sound srv st)
    (h : Answered (srv.log st s.sent) q) (hq' : q'.isDial = false) :
    Answered (srv.log st (s.told srv [q']).sent) q := by
  show Answered (srv.log st (s.sent ++ [q'])) q
  rw [srv.log_append, ← hs.server]
  refine h.append fun x hx => ?_
  rw [List.mem_singleton.1 (srv.mem_of_mem_log _ hx)]
  exact hq'

/-- A message that was just answered. -/
theorem Sound.answered_last {q : Request} (hs : s.Sound srv st) (hq : q.isDial = false)
    (hn : (srv.respond q s.server).1 = none) :
    Answered (srv.log st (s.told srv [q]).sent) q := by
  show Answered (srv.log st (s.sent ++ [q])) q
  rw [srv.log_append, ← hs.server, Server.log, Server.log, hn]
  exact answered_of_last _ hq

end Session

/-- What an error says about the connection, which was open before or not. -/
def Error.Kind.Agrees (before after : Bool) : Error.Kind → Prop
  | .connection => after = false
  | .query => after = true
  | .invalidArgument => before → after
  | .configuration | .internal => False

theorem Error.Kind.agrees_iff {k : Error.Kind} {before after : Bool} :
    k.Agrees before after ↔ (k = .connection → after = false) ∧ (k = .query → after) ∧
      (k = .invalidArgument → before → after) ∧ k ≠ .configuration ∧ k ≠ .internal := by
  cases k <;> simp [Agrees]

/-- What the end of a call says about the connection, which was open before or not. -/
def Abort.Agrees (before after : Bool) : Abort Error → Prop
  | error e => e.kind.Agrees before after
  | panic => before → after

/-- The course from a session to another with messages in between, in which statements are executed,
up to where the call was cut short if it was. -/
structure Course (srv : Server σ) (st : σ) (bs : List Bound) (s : Session σ) (qs : List Request)
    (e : Option (Abort Error)) (s' : Session σ) : Prop where
  sound : s'.Sound srv st
  sent : s'.sent = s.sent ++ qs
  role : s'.connector.role = s.connector.role
  profile : s'.connector.profile = s.connector.profile
  ends : Ends (srv.log s.server qs) e
  executed : Executed bs qs e
  ready : AllReady (srv.log st s.sent) (srv.log s.server qs)
  dials : qs.countP Request.isDial + s.up ≤ if e = none then s'.up else 1
  first : s.connector.isConnected ∨ qs.head?.all Request.isDial
  quiet : qs = [] → s'.connector.isConnected = s.connector.isConnected
  agrees : ∀ x ∈ e, x.Agrees s.connector.isConnected s'.connector.isConnected

namespace Course

variable {srv : Server σ} {st : σ} {bs bs' : List Bound} {s s₁ s' : Session σ}
  {qs qs' : List Request} {e : Option (Abort Error)}

/-- Nothing is sent and nothing changes. -/
theorem refl (hs : s.Sound srv st) : Course srv st [] s [] none s where
  sound := hs
  sent := (List.append_nil _).symm
  role := rfl
  profile := rfl
  ends := .well (by simp [Server.log])
  executed := ⟨[], [], rfl, fun _ => rfl, .nil⟩
  ready := trivial
  dials := by simp
  first := .inr rfl
  quiet _ := rfl
  agrees := by simp

/-- Nothing is sent, and the call is cut short. -/
theorem cut {x : Abort Error} (hs : s.Sound srv st)
    (hx : x.Agrees s.connector.isConnected s.connector.isConnected) :
    Course srv st [] s [] (some x) s :=
  { refl hs with
    ends := .well (by simp [Server.log])
    executed := ⟨[], [], rfl, fun _ => rfl, .nil⟩
    dials := by
      show 0 + s.up ≤ 1
      rw [Nat.zero_add]
      exact s.up_le
    agrees := by
      rintro _ ⟨⟩
      exact hx }

/-- An open connection stays open where nothing fails. -/
theorem connected (h : Course srv st bs s qs none s') (hs : s.connector.isConnected) :
    s'.connector.isConnected := by
  have := h.dials
  rw [if_pos rfl, Session.up, Session.up, hs] at this
  cases hs' : s'.connector.isConnected with
  | true => rfl
  | false =>
    rw [hs'] at this
    simp at this

theorem server_eq (h : Course srv st bs s qs e s') (hs : s.Sound srv st) :
    s'.server = srv.after s.server qs := by
  rw [h.sound.server, h.sent, srv.after_append, hs.server]

theorem log_eq (h : Course srv st bs s qs e s') (hs : s.Sound srv st) :
    srv.log st s'.sent = srv.log st s.sent ++ srv.log s.server qs := by
  rw [h.sent, srv.log_append, hs.server]

/-- One course after another. -/
theorem trans (h : Course srv st bs s qs none s₁) (h' : Course srv st bs' s₁ qs' e s')
    (hs : s.Sound srv st) : Course srv st (bs ++ bs') s (qs ++ qs') e s' where
  sound := h'.sound
  sent := by rw [h'.sent, h.sent, List.append_assoc]
  role := h'.role.trans h.role
  profile := h'.profile.trans h.profile
  ends := by
    rw [srv.log_append, ← h.server_eq hs]
    exact h'.ends.append h.ends.all
  executed := h.executed.append h'.executed
  ready := by
    rw [srv.log_append, ← h.server_eq hs, allReady_append, ← h.log_eq hs]
    exact ⟨h.ready, h'.ready⟩
  dials := by
    have h₁ := h.dials
    have h₂ := h'.dials
    rw [if_pos rfl] at h₁
    rw [List.countP_append]
    omega
  first := by
    cases qs with
    | nil =>
      rw [← h.quiet rfl, List.nil_append]
      exact h'.first
    | cons q qs => exact h.first
  quiet hq := by
    obtain ⟨rfl, rfl⟩ := List.append_eq_nil_iff.1 hq
    rw [h'.quiet rfl, h.quiet rfl]
  agrees x hx := by
    have hx := h'.agrees x hx
    -- only an error of an argument and a panic look at the connection before
    cases x with
    | panic => exact fun hs => hx (h.connected hs)
    | error x =>
      rw [Abort.Agrees] at hx ⊢
      cases hk : x.kind with
      | invalidArgument =>
        rw [hk] at hx
        exact fun hs => hx (h.connected hs)
      | _ =>
        rw [hk] at hx
        exact hx

/-- A message on an open connection is answered. -/
theorem told {q : Request} (hs : s.Sound srv st) (hc : s.connector.isConnected)
    (hq : q.isDial = false) (hbs : Executed bs [q] none) (hready : q.Ready (srv.log st s.sent))
    (hn : (srv.respond q s.server).1 = none) :
    Course srv st bs s [q] none (s.told srv [q]) where
  sound := hs.told [q]
  sent := rfl
  role := rfl
  profile := rfl
  ends := by
    rw [Server.log, Server.log, hn]
    exact .well (by simp)
  executed := hbs
  ready := ⟨hready, trivial⟩
  dials := by simp [hq, Session.up, Session.told]
  first := .inl hc
  quiet h := by cases h
  agrees := by simp

/-- A message on an open connection fails, and the connection is kept or given up. -/
theorem failed {q : Request} {a : Abort Failure} {x : Abort Error} {b : Bool}
    (hs : s.Sound srv st) (hc : s.connector.isConnected) (hq : q.isDial = false)
    (hbs : Executed bs [q] none) (hready : q.Ready (srv.log st s.sent))
    (hn : (srv.respond q s.server).1 = some a) (hx : x.Reports a) (hb : x.Agrees true b) :
    Course srv st bs s [q] (some x) ((s.told srv [q]).withConnected b) where
  sound := (hs.told [q]).withConnected b
  sent := rfl
  role := rfl
  profile := rfl
  ends := by
    rw [Server.log, Server.log, hn]
    exact .failed (l := []) (by simp) hx
  executed := hbs.any _
  ready := ⟨hready, trivial⟩
  dials := by simpa [hq] using s.up_le
  first := .inl hc
  quiet h := by cases h
  agrees := by
    rintro _ ⟨⟩
    rw [hc]
    exact hb

/-- Messages open a connection. -/
theorem opened (hs : s.Sound srv st) (hc : s.connector.isConnected = false) (hqs : Dialing qs)
    (hn : ∀ x ∈ srv.log s.server qs, x.2 = none) :
    Course srv st [] s qs none ((s.told srv qs).withConnected true) where
  sound := (hs.told qs).withConnected true
  sent := rfl
  role := rfl
  profile := rfl
  ends := .well hn
  executed := ⟨[], [], rfl, fun _ => rfl, hqs.filter_isExecution ▸ .nil⟩
  ready := allReady_of_forall fun x hx => hqs.runs x.1 (srv.mem_of_mem_log _ hx)
  dials := by simp [hqs.once, Session.up, hc, Session.withConnected]
  first := .inr hqs.first
  quiet h := absurd h hqs.ne_nil
  agrees := by simp

/-- Messages open no connection. -/
theorem unreached {l : List Exchange} {q : Request} {a : Abort Failure} {x : Abort Error}
    (hs : s.Sound srv st) (hc : s.connector.isConnected = false) (hqs : Dialing qs)
    (hlog : srv.log s.server qs = l ++ [(q, some a)]) (hl : ∀ x ∈ l, x.2 = none)
    (hx : x.Reports a) (hagrees : x.Agrees false false) :
    Course srv st [] s qs (some x) (s.told srv qs) where
  sound := hs.told qs
  sent := rfl
  role := rfl
  profile := rfl
  ends := hlog ▸ .failed hl hx
  executed := ⟨[], [], rfl, fun _ => rfl, hqs.filter_isExecution ▸ .nil⟩
  ready := allReady_of_forall fun x hx => hqs.runs x.1 (srv.mem_of_mem_log _ hx)
  dials := by simp [hqs.once, Session.up, hc]
  first := .inr hqs.first
  quiet h := absurd h hqs.ne_nil
  agrees := by
    rintro _ ⟨⟩
    rw [hc, show (s.told srv qs).connector = s.connector from rfl, hc]
    exact hagrees

/-- Statements after the end of a call are not executed. -/
theorem stop {x : Abort Error} (h : Course srv st bs s qs (some x) s') (bs' : List Bound) :
    Course srv st (bs ++ bs') s qs (some x) s' :=
  { h with executed := h.executed.weaken bs' }

end Course

/-! ## Triples -/

namespace Call

section Runs

variable (s : Session σ)

/-- What follows a step starts where the step has left the session, unless it failed. -/
theorem runOn_bind (x : Call σ α) (f : α → Call σ β) : (x >>= f).runOn s =
    match x.runOn s with
    | (.ok a, s₁) => (f a).runOn s₁
    | (.error e, s₁) => (.error e, s₁) := by
  unfold runOn ExceptT.run StateT.run
  simp only [bind, ExceptT.bind, ExceptT.mk, StateT.bind, ExceptT.bindCont]
  cases x s with
  | mk r s₁ => cases r <;> rfl

@[simp] theorem runOn_pure (a : α) : (pure a : Call σ α).runOn s = (.ok a, s) := rfl

@[simp] theorem runOn_throw (e : Abort Error) : (throw e : Call σ α).runOn s = (.error e, s) := rfl

@[simp] theorem runOn_get : (get : Call σ (Session σ)).runOn s = (.ok s, s) := rfl

@[simp] theorem runOn_ofAttempt (r : Attempt Error α) :
    (ofAttempt r : Call σ α).runOn s = (r, s) := rfl

@[simp] theorem runOn_ofResult (r : Except Error α) :
    (ofResult r : Call σ α).runOn s = (r.mapError .error, s) := rfl

@[simp] theorem runOn_setConnected (b : Bool) :
    (setConnected b).runOn s = (.ok (), s.withConnected b) := rfl

@[simp] theorem runOn_exchange (q : Request) (answer : σ → α × σ) : (exchange q answer).runOn s =
    (.ok (answer s.server).1,
      { s with server := (answer s.server).2, sent := s.sent ++ [q] }) := rfl

theorem runOn_exchange_told {srv : Server σ} {q : Request} {answer : σ → α × σ}
    (hr : ∀ st, (srv.respond q st).2 = (answer st).2) :
    (exchange q answer).runOn s = (.ok (answer s.server).1, s.told srv [q]) := by
  rw [runOn_exchange, ← hr]
  rfl

/-- Two steps that give a value have a session between them. -/
theorem of_runOn_bind_eq_ok {s : Session σ} {x : Call σ α} {f : α → Call σ β} {b : β}
    (h : ((x >>= f).runOn s).1 = .ok b) :
    ∃ a s₁, x.runOn s = (.ok a, s₁) ∧ ((f a).runOn s₁).1 = .ok b := by
  rw [runOn_bind] at h
  rcases hx : x.runOn s with ⟨e | a, s₁⟩
  · rw [hx] at h
    cases h
  · rw [hx] at h
    exact ⟨a, s₁, rfl, h⟩

/-- What became of an answer that is none: it is told, and only a failure that breaks the connection
gives it up. -/
theorem exists_runOn_orFail (hs : s.connector.isConnected) (a : Abort Failure) :
    ∃ x b, (orFail (.error a) : Call σ α).runOn s = (.error x, s.withConnected b) ∧
      x.Reports a ∧ x.Agrees true b := by
  cases a with
  | panic =>
    refine ⟨.panic, true, ?_, .panic, id⟩
    rw [Session.withConnected_self hs]
    rfl
  | error f =>
    show ∃ x b, (fail f : Call σ α).runOn s = _ ∧ _
    unfold fail
    by_cases hf : f.isBreaking
    · rw [if_pos hf, runOn_bind]
      exact ⟨_, false, rfl, .error (.inl rfl) ⟨_, rfl⟩, rfl⟩
    · rw [if_neg hf]
      refine ⟨.error (.query ("PostgreSQL query failed: " ++ f.message)), true, ?_,
        .error (.inr ⟨rfl, by simpa using hf⟩) ⟨_, rfl⟩, rfl⟩
      rw [Session.withConnected_self hs]
      rfl

end Runs

/-- From a sound session of which `P` holds, a call takes a course in which it executes the
statements `bs`; and if it gives a value, `Q` holds of it and of the session then. -/
def Triple (srv : Server σ) (st : σ) (bs : List Bound) (P : Session σ → Prop) (x : Call σ α)
    (Q : α → Session σ → Prop) : Prop :=
  ∀ s, s.Sound srv st → P s →
    (∃ qs, Course srv st bs s qs (error? (x.runOn s).1) (x.runOn s).2) ∧
    ∀ a, (x.runOn s).1 = .ok a → Q a (x.runOn s).2

namespace Triple

variable {srv : Server σ} {st : σ} {bs bs' : List Bound} {P P' : Session σ → Prop}
  {Q Q' : α → Session σ → Prop} {x : Call σ α}

theorem conseq (h : Triple srv st bs P x Q) (hp : ∀ s, s.Sound srv st → P' s → P s)
    (hq : ∀ a s, s.Sound srv st → Q a s → Q' a s) : Triple srv st bs P' x Q' := by
  intro s hs hP
  obtain ⟨⟨qs, hc⟩, hQ⟩ := h s hs (hp s hs hP)
  exact ⟨⟨qs, hc⟩, fun a ha => hq a _ hc.sound (hQ a ha)⟩

theorem pre (h : Triple srv st bs P x Q) (hp : ∀ s, s.Sound srv st → P' s → P s) :
    Triple srv st bs P' x Q := h.conseq hp fun _ _ _ h => h

theorem post (h : Triple srv st bs P x Q) (hq : ∀ a s, s.Sound srv st → Q a s → Q' a s) :
    Triple srv st bs P x Q' := h.conseq (fun _ _ h => h) hq

/-- What does not depend on the session is assumed. -/
theorem lift {φ : Prop} (h : φ → Triple srv st bs P x Q) :
    Triple srv st bs (fun s => φ ∧ P s) x Q := fun s hs hP => h hP.1 s hs hP.2

/-- An open connection stays open where a value is given. -/
theorem frame (h : Triple srv st bs P x Q) :
    Triple srv st bs (fun s => P s ∧ s.connector.isConnected) x
      fun a s => Q a s ∧ s.connector.isConnected := by
  intro s hs ⟨hP, hc⟩
  obtain ⟨⟨qs, hcourse⟩, hQ⟩ := h s hs hP
  refine ⟨⟨qs, hcourse⟩, fun a ha => ⟨hQ a ha, ?_⟩⟩
  rw [ha] at hcourse
  exact hcourse.connected hc

theorem ret (a : α) : Triple srv st [] (Q a) (pure a) Q := by
  intro s hs hQ
  refine ⟨⟨[], .refl hs⟩, ?_⟩
  rintro _ ⟨⟩
  exact hQ

/-- A value that nothing depends on. -/
theorem const (a : α) : Triple srv st [] P (pure a) fun _ => P := ret (Q := fun _ => P) a

/-- A step and what follows it from the state that it leaves; both add to what is executed. -/
theorem bind {R : β → Session σ → Prop} {f : α → Call σ β} (hx : Triple srv st bs P x Q)
    (hf : ∀ a, Triple srv st bs' (Q a) (f a) R) : Triple srv st (bs ++ bs') P (x >>= f) R := by
  intro s hs hP
  obtain ⟨⟨qs, hc⟩, hQ⟩ := hx s hs hP
  rw [runOn_bind]
  cases hr : x.runOn s with
  | mk r s₁ =>
    rw [hr] at hc hQ
    cases r with
    | ok a =>
      obtain ⟨⟨qs', hc'⟩, hR⟩ := hf a s₁ hc.sound (hQ a rfl)
      exact ⟨⟨qs ++ qs', hc.trans hc' hs⟩, hR⟩
    | error e =>
      refine ⟨⟨qs, hc.stop bs'⟩, fun b hb => ?_⟩
      cases hb

theorem map {R : β → Session σ → Prop} (f : α → β) (hx : Triple srv st bs P x Q)
    (hf : ∀ a s, Q a s → R (f a) s) : Triple srv st bs P (f <$> x) R := by
  rw [map_eq_pure_bind, ← bs.append_nil]
  exact hx.bind fun a => (ret (f a)).pre fun s _ => hf a s

/-- A step that sends nothing, and ends in a way that agrees with the connection as it is. -/
theorem attempt {r : Attempt Error α} (h : ∀ e s, r = .error e → P s →
      e.Agrees s.connector.isConnected s.connector.isConnected) :
    Triple srv st [] P (ofAttempt r) fun a s => r = .ok a ∧ P s := by
  intro s hs hP
  cases r with
  | ok a =>
    refine ⟨⟨[], .refl hs⟩, ?_⟩
    rintro _ ⟨⟩
    exact ⟨rfl, hP⟩
  | error e => exact ⟨⟨[], .cut hs (h e s rfl hP)⟩, fun a ha => by cases ha⟩

/-- A step that sends nothing, whose errors are those of arguments. -/
theorem result {r : Except Error α} (h : ∀ e, r = .error e → e.kind = .invalidArgument) :
    Triple srv st [] P (ofResult r) fun a s => r = .ok a ∧ P s := by
  refine (attempt fun e s he _ => ?_).post fun a s _ ha => ⟨mapError_eq_ok_iff.1 ha.1, ha.2⟩
  obtain ⟨e', he', rfl⟩ := mapError_eq_error_iff.1 he
  rw [Abort.Agrees, h e' he']
  exact id

/-- A message on an open connection, whose failure counts against it. -/
theorem exchange {q : Request} {answer : σ → Answer α × σ}
    (hr : ∀ st, srv.respond q st = (answer st).map error? id) (hq : q.isDial = false)
    (hbs : Executed bs [q] none) (hP : ∀ s, P s → s.connector.isConnected)
    (hready : ∀ s, P s → q.Ready (srv.log st s.sent)) :
    Triple srv st bs P (Call.exchange q answer >>= orFail)
      fun a s' => ∃ s, s.Sound srv st ∧ P s ∧ s' = s.told srv [q] ∧
        (answer s.server).1 = .ok a := by
  intro s hs hP'
  have hc := hP s hP'
  have hrespond : (srv.respond q s.server).1 = error? (answer s.server).1 := by
    rw [hr, Prod.map_fst]
  have hexchange : (Call.exchange q answer).runOn s =
      (.ok (answer s.server).1, s.told srv [q]) := by
    refine runOn_exchange_told s fun st => ?_
    rw [hr]
    rfl
  rw [runOn_bind, hexchange]
  cases ha : (answer s.server).1 with
  | ok a =>
    rw [ha] at hrespond
    refine ⟨⟨[q], .told hs hc hq hbs (hready s hP') hrespond⟩, ?_⟩
    rintro _ ⟨⟩
    exact ⟨s, hs, hP', rfl, ha⟩
  | error a =>
    rw [ha] at hrespond
    obtain ⟨x, b, hrun, hx, hb⟩ := exists_runOn_orFail (α := α) (s.told srv [q]) hc a
    dsimp only
    rw [hrun]
    exact ⟨⟨[q], .failed hs hc hq hbs (hready s hP') hrespond hx hb⟩, fun a ha => by cases ha⟩

end Triple

end Call

end PgRole
