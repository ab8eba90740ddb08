import PgRole.Connector.Command
import PgRole.Proofs.Connector.Course
import PgRole.Proofs.Postgres.ErrorKind

/-!
# The courses of calls

One triple a call, from the opening of a connection up. None of them has a precondition: whatever
was done with a connector before, a call takes a course that executes its statements, and leaves
an open connection if it gives a value.
-/

namespace PgRole

open Sql

variable {σ : Type} {srv : Server σ} {st : σ}

namespace Call

/-- A session has an open connection. -/
def Open (s : Session σ) : Prop := s.connector.isConnected = true

/-- A message was answered on the connection that a session has open. -/
def Asked (srv : Server σ) (st : σ) (q : Request) (s : Session σ) : Prop :=
  Open s ∧ Answered (srv.log st s.sent) q

/-! ## The connection -/

/-- A handshake opens with a call and stops where the server fails to answer. -/
theorem runOn_handshake (srv : Server σ) (p : Profile) (port : Nat) (s : Session σ) :
    ∃ qs r, (handshake srv p port).runOn s = (.ok r, s.told srv qs) ∧ Dialing qs ∧
      match r with
      | .ok () => ∀ x ∈ srv.log s.server qs, x.2 = none
      | .error a => ∃ l q, srv.log s.server qs = l ++ [(q, some a)] ∧ ∀ x ∈ l, x.2 = none := by
  -- the sessions after each message, and the log up to each
  let dial : Request := .dial p.host port
  let login : Login := ⟨p.user, p.name, applicationName⟩
  let password : Request := .password p.password
  let s₁ := s.told srv [dial]
  let s₂ := s₁.told srv [.login login]
  have hdial : (exchange dial (srv.dial p.host port)).runOn s =
      (.ok (srv.dial p.host port s.server).1, s₁) := runOn_exchange_told s fun _ => rfl
  have hlogin : (exchange (.login login) (srv.login login)).runOn s₁ =
      (.ok (srv.login login s₁.server).1, s₂) := runOn_exchange_told s₁ fun _ => rfl
  have hpassword : (exchange password (srv.password p.password)).runOn s₂ =
      (.ok (srv.password p.password s₂.server).1, s₂.told srv [password]) :=
    runOn_exchange_told s₂ fun _ => rfl
  have hs₂ : s₂ = s.told srv [dial, .login login] := s.told_told [dial] [.login login]
  have hs₃ : s₂.told srv [password] = s.told srv [dial, .login login, password] := by
    rw [hs₂]
    exact s.told_told [dial, .login login] [password]
  have hlog₂ : srv.log s.server [dial, .login login] = [(dial, (srv.respond dial s.server).1),
      (.login login, (srv.respond (.login login) s₁.server).1)] := rfl
  have hlog₃ : srv.log s.server [dial, .login login, password] =
      [(dial, (srv.respond dial s.server).1),
        (.login login, (srv.respond (.login login) s₁.server).1),
        (password, (srv.respond password s₂.server).1)] := rfl
  unfold handshake
  rw [runOn_bind, hdial]
  -- the handshake ends at the first message that is not answered well
  cases hd : (srv.dial p.host port s.server).1 with
  | error a =>
    have ha : (srv.respond dial s.server).1 = some a := congrArg error? hd
    refine ⟨[dial], .error a, rfl, .cons _ _ _ (by simp), [], dial, ?_, by simp⟩
    rw [Server.log, Server.log, ha]
    rfl
  | ok =>
    have hd : (srv.respond dial s.server).1 = none := congrArg error? hd
    dsimp only
    rw [runOn_bind, hlogin]
    rw [hd] at hlog₂ hlog₃
    cases hl : (srv.login login s₁.server).1 with
    -- a server that asks for no password is told none
    | admitted =>
      have hl : (srv.respond (.login login) s₁.server).1 = none := congrArg Greeting.abort? hl
      refine ⟨[dial, .login login], .ok (), congrArg _ hs₂, .cons _ _ _ ?_, ?_⟩
      · simp [Request.isDial, Request.isExecution]
      · dsimp only
        rw [hlog₂, hl]
        simp
    | failed a =>
      have hl : (srv.respond (.login login) s₁.server).1 = some a := congrArg Greeting.abort? hl
      refine ⟨[dial, .login login], .error a, congrArg _ hs₂, .cons _ _ _ ?_, [(dial, none)],
        .login login, ?_, by simp⟩
      · simp [Request.isDial, Request.isExecution]
      · rw [hlog₂, hl]
        rfl
    | passwordDue =>
      have hl : (srv.respond (.login login) s₁.server).1 = none := congrArg Greeting.abort? hl
      refine ⟨[dial, .login login, password], (srv.password p.password s₂.server).1,
        hpassword.trans (congrArg _ hs₃), .cons _ _ _ ?_, ?_⟩
      · simp [password, Request.isDial, Request.isExecution]
      · rw [hl] at hlog₃
        have hp : (srv.respond password s₂.server).1 =
          error? (srv.password p.password s₂.server).1 := rfl
        rw [hp] at hlog₃
        rw [hlog₃]
        cases (srv.password p.password s₂.server).1 with
        | error a => exact ⟨[(dial, none), (.login login, none)], password, rfl, by simp⟩
        | ok => simp [error?]

/-- A connection is opened where none is. What holds of sessions with an open connection is kept: in
them, there is nothing to do. -/
theorem triple_connect (φ : Prop) (P : Session σ → Prop) :
    Triple srv st [] (fun s => φ → Open s ∧ P s) (connect srv)
      fun _ s => Open s ∧ (φ → P s) := by
  intro s hs hP
  unfold connect
  rw [runOn_bind, runOn_get]
  dsimp only
  cases hc : s.connector.isConnected with
  -- what is open is used as it is
  | true =>
    refine ⟨⟨[], .refl hs⟩, ?_⟩
    rintro _ ⟨⟩
    exact ⟨hc, fun h => (hP h).2⟩
  | false =>
    -- `φ` supposes an open connection, so it does not hold here
    have hφ : ¬φ := fun h => by
      have hopen : s.connector.isConnected = true := (hP h).1
      rw [hc] at hopen
      cases hopen
    rw [if_neg Bool.false_ne_true]
    cases hp : s.connector.profile.portNumber? with
    -- a connector is only made of a profile whose port is a number
    | none =>
      have := hs.port
      rw [hp] at this
      cases this
    | some port =>
      obtain ⟨qs, r, hrun, hqs, hr⟩ := runOn_handshake srv s.connector.profile port s
      dsimp only
      rw [runOn_bind, hrun]
      cases r with
      | error a =>
        obtain ⟨l, q, hlog, hl⟩ := hr
        cases a with
        | panic =>
          refine ⟨⟨qs, .unreached hs hc hqs hlog hl .panic id⟩, fun _ hk => ?_⟩
          cases hk
        | error f =>
          refine ⟨⟨qs, .unreached hs hc hqs hlog hl (.error (.inl rfl) ⟨_, rfl⟩) rfl⟩,
            fun _ hk => ?_⟩
          cases hk
      | ok =>
        refine ⟨⟨qs, .opened hs hc hqs hr⟩, ?_⟩
        rintro _ ⟨⟩
        exact ⟨rfl, fun h => absurd h hφ⟩

/-- A message on the connection, which is opened if none is. What held of a session with an open
connection holds of the session in which the message is sent. -/
theorem triple_ask {α : Type} {bs : List Bound} {q : Request} {answer : σ → Answer α × σ}
    (φ : Prop) (P : Session σ → Prop) (hr : ∀ st, srv.respond q st = (answer st).map error? id)
    (hq : q.isDial = false) (hbs : Executed bs [q] none) (hready : ∀ past, q.Ready past) :
    Triple srv st bs (fun s => φ → Open s ∧ P s) (ask srv q answer)
      fun a s' => ∃ s, s.Sound srv st ∧ (Open s ∧ (φ → P s)) ∧ s' = s.told srv [q] ∧
        (answer s.server).1 = .ok a :=
  (triple_connect φ P).bind fun _ =>
    Triple.exchange hr hq hbs (fun _ h => h.1) fun _ _ => hready _

/-- A message of which nothing is asked but that it is answered. -/
theorem triple_ask_open {α : Type} {bs : List Bound} {q : Request} {answer : σ → Answer α × σ}
    (hr : ∀ st, srv.respond q st = (answer st).map error? id) (hq : q.isDial = false)
    (hbs : Executed bs [q] none) (hready : ∀ past, q.Ready past) :
    Triple srv st bs (fun _ => True) (ask srv q answer) fun _ => Open := by
  refine (triple_ask False (fun _ => True) hr hq hbs hready).conseq (fun _ _ _ h => h.elim) ?_
  rintro a _ _ ⟨s, -, ⟨hopen, -⟩, rfl, -⟩
  exact hopen

/-! ## Descriptions -/

/-- Nothing is executed by a message that does not have to be ready. -/
theorem executed_nil {q : Request} (hq : q.isExecution = false) : Executed [] [q] none :=
  ⟨[], [], rfl, fun _ => rfl, by simp [hq]⟩

/-- After a description was given, the connection is open and the description answered on it. -/
theorem triple_describe (sql : String) :
    Triple srv st [] (fun _ => True) (describe srv sql)
      fun _ => Asked srv st (.describe sql) := by
  have hready (past : List Exchange) : (Request.describe sql).Ready past := trivial
  refine (triple_ask False (fun _ => True) (fun _ => rfl) rfl (executed_nil rfl) hready).conseq
    (fun _ _ _ h => h.elim) ?_
  rintro d _ _ ⟨s, hs, ⟨hopen, -⟩, rfl, hd⟩
  exact ⟨hopen, hs.answered_last rfl (congrArg error? hd)⟩

/-- A statement is prepared on the connection on which it was described, if it was. -/
theorem triple_prepare (φ : Prop) (sql : String) :
    Triple srv st [] (fun s => φ → Asked srv st (.describe sql) s) (prepare srv sql)
      fun _ s => Asked srv st (.prepare sql) s ∧ (φ → Asked srv st (.describe sql) s) := by
  have hready (past : List Exchange) : (Request.prepare sql).Ready past := trivial
  refine (triple_ask φ (fun s => Answered (srv.log st s.sent) (.describe sql)) (fun _ => rfl) rfl
    (executed_nil rfl) hready).post ?_
  rintro d _ _ ⟨s, hs, ⟨hopen, hdescribed⟩, rfl, hd⟩
  exact ⟨⟨hopen, hs.answered_last rfl (congrArg error? hd)⟩,
    fun h => ⟨hopen, hs.answered_told (hdescribed h) rfl⟩⟩

/-! ## Statements -/

/-- The values of a statement are converted once it was described; without values there is nothing
to ask for. -/
theorem triple_convert (b : Bound) :
    Triple srv st [] (fun _ => True) (convert srv b)
      fun params s => (∃ types, Postgres.Param.all types b.args = .ok params) ∧
        (b.args ≠ [] → Asked srv st (.describe b.sql) s) := by
  have hresult (types : List Postgres.SqlType) : Triple srv st []
      (fun s => b.args ≠ [] → Asked srv st (.describe b.sql) s)
      (ofResult (Postgres.Param.all types b.args))
      fun params s => (∃ types, Postgres.Param.all types b.args = .ok params) ∧
        (b.args ≠ [] → Asked srv st (.describe b.sql) s) := by
    refine (Triple.result fun e he => ?_).post fun _ _ _ h => ⟨⟨_, h.1⟩, h.2⟩
    exact Postgres.Param.kind_of_all he
  unfold convert
  by_cases hb : b.args.isEmpty
  · dsimp only
    rw [if_pos hb, pure_bind]
    exact (hresult []).pre fun _ _ _ hne => absurd (List.isEmpty_iff.1 hb) hne
  · dsimp only
    rw [if_neg hb]
    exact ((triple_describe b.sql).map Description.params fun _ _ h _ => h).bind hresult

/-- A statement without values has no octets to send. -/
theorem encodeAll_eq_nil {b : Bound} {types kinds : List Postgres.SqlType}
    {params : List Postgres.Param} (hparams : Postgres.Param.all types b.args = .ok params)
    (hb : b.args = []) : Postgres.Param.encodeAll kinds params = [] := by
  rw [hb] at hparams
  cases hparams
  rfl

/-- A statement is executed once, after it was prepared, and described if it has values. -/
theorem triple_run (b : Bound) (limit : Nat) :
    Triple srv st [b] (fun _ => True) (run srv b limit) fun _ => Open := by
  refine (triple_convert b).bind fun params => Triple.lift fun ⟨types, hparams⟩ => ?_
  refine (triple_prepare (b.args ≠ []) b.sql).bind fun d => ?_
  dsimp only
  rw [← bind_assoc]
  let args := Postgres.Param.encodeAll d.params params
  have hexecute : Triple srv st [b] (fun s => Asked srv st (.prepare b.sql) s ∧
        (b.args ≠ [] → Asked srv st (.describe b.sql) s))
      (exchange (.execute b.sql args limit) (srv.execute b.sql args limit) >>= orFail)
      fun _ => Open := by
    refine (Triple.exchange (fun _ => rfl) rfl ?_ (fun _ h => h.1.1) ?_).post ?_
    · exact ⟨[b], [], rfl, fun _ => rfl, .cons ⟨rfl, types, d.params, params, hparams, rfl⟩ .nil⟩
    · rintro s ⟨⟨-, hprepared⟩, hdescribed⟩
      exact ⟨hprepared, fun hargs => (hdescribed fun hb => hargs (encodeAll_eq_nil hparams hb)).2⟩
    · rintro _ _ _ ⟨s, -, ⟨⟨hopen, -⟩, -⟩, rfl, -⟩
      exact hopen
  exact hexecute.bind fun r => Triple.const (d, r)

/-- An end that is an error of a query, or a panic, agrees with an open connection. -/
theorem agrees_of_query {s : Session σ} {a : Abort Error}
    (ha : ∀ e, a = .error e → e.kind = .query) (hs : Open s) :
    a.Agrees s.connector.isConnected s.connector.isConnected := by
  cases a with
  | panic => exact id
  | error e =>
    rw [Abort.Agrees, ha e rfl]
    exact hs

/-- Fetching one row executes the statement once. -/
theorem triple_firstRow (b : Bound) :
    Triple srv st [b] (fun _ => True) (firstRow srv b) fun _ => Open := by
  refine (triple_run b 1).bind fun (d, r) => ?_
  cases hr : r.rows with
  | nil =>
    dsimp only
    rw [hr]
    exact Triple.const none
  | cons row rows =>
    dsimp only
    rw [hr]
    exact Triple.map _ (Triple.attempt fun e s he hs => agrees_of_query
      (fun _ h => Postgres.Row.kind_of_record (he.trans (congrArg _ h))) hs) fun _ _ h => h.2

/-- Fetching all rows executes the statement once; where there are none, describing it again is not
an execution. -/
theorem triple_allRows (b : Bound) :
    Triple srv st [b] (fun _ => True) (allRows srv b) fun _ => Open := by
  refine (triple_run b 0).bind fun (d, r) => ?_
  have hresult (d : Description) : Triple srv st [] Open
      (ofAttempt (Postgres.Row.rowSet d.columns r.rows)) fun _ => Open :=
    (Triple.attempt fun e s he hs => agrees_of_query
      (fun _ h => Postgres.Row.kind_of_rowSet (he.trans (congrArg _ h))) hs).post fun _ _ _ h => h.2
  dsimp only
  by_cases hr : r.rows.isEmpty
  · rw [if_pos hr]
    refine ((triple_describe b.sql).conseq (fun _ _ _ => trivial) fun _ _ _ h => ?_).bind hresult
    exact h.1
  · rw [if_neg hr, pure_bind]
    exact hresult d

/-- A statement without values is executed as a script, and only such a one. -/
theorem triple_write (b : Bound) :
    Triple srv st [b] (fun _ => True) (write srv b) fun _ => Open := by
  unfold write
  by_cases hb : b.args.isEmpty
  · rw [if_pos hb]
    have hexecuted : Executed [b] [.script b.sql] none :=
      ⟨[b], [], rfl, fun _ => rfl, .cons ⟨rfl, List.isEmpty_iff.1 hb⟩ .nil⟩
    exact (triple_ask_open (fun _ => rfl) rfl hexecuted fun _ => trivial).bind
      fun tags => Triple.const _
  · rw [if_neg hb]
    exact (triple_run b 0).bind fun _ => Triple.const _

end Call

namespace Connector

open Call

/-- What is not a statement is an error of the argument, and nothing is sent. -/
theorem triple_bound {α ε : Type} (r : Except ε Bound) (error : ε → Error)
    (herror : ∀ e, (error e).kind = .invalidArgument) {f : Bound → Call σ α}
    {Q : α → Session σ → Prop} (hf : ∀ b, Triple srv st [b] (fun _ => True) (f b) Q) :
    Triple srv st r.toOption.toList (fun _ => True) (ofResult (r.mapError error) >>= f) Q := by
  have hresult : Triple srv st [] (fun _ => True) (ofResult (r.mapError error) : Call σ Bound)
      fun b _ => r = .ok b ∧ True := by
    refine (Triple.result fun e he => ?_).post
      fun b _ _ h => ⟨mapError_eq_ok_iff.1 h.1, h.2⟩
    obtain ⟨e', -, rfl⟩ := mapError_eq_error_iff.1 he
    exact herror e'
  refine hresult.bind fun b => Triple.lift fun hb => ?_
  rw [hb]
  exact hf b

theorem triple_fetchOne (sql : String) (params : Option Params) :
    Triple srv st (Sql.compile sql params).toOption.toList (fun _ => True)
      (fetchOne srv sql params) fun _ => Open :=
  triple_bound _ _ (fun _ => rfl) triple_firstRow

theorem triple_fetchAll (sql : String) (params : Option Params) :
    Triple srv st (Sql.compile sql params).toOption.toList (fun _ => True)
      (fetchAll srv sql params) fun _ => Open :=
  triple_bound _ _ (fun _ => rfl) triple_allRows

theorem triple_upsert (sql : String) (params : Option Params) :
    Triple srv st (Sql.compile sql params).toOption.toList (fun _ => True)
      (upsert srv sql params) fun _ => Open :=
  triple_bound _ _ (fun _ => rfl) triple_write

/-- A described statement is executed if it can be rendered. -/
theorem triple_execute (s : Statement) :
    Triple srv st (render s).toOption.toList (fun _ => True) (execute srv s) fun _ => Open := by
  refine triple_bound _ _ (fun _ => rfl) fun b => ?_
  have hwrite : Triple srv st [b] (fun _ => True) (Outcome.affected <$> write srv b)
      fun _ => Open := (triple_write b).map _ fun _ _ h => h
  cases s with
  | select t f ws j m =>
    cases m with
    | one => exact (triple_firstRow b).map _ fun _ _ h => h
    | all => exact (triple_allRows b).map _ fun _ _ h => h
  | _ => exact hwrite

/-- Statements are executed one after the other up to the first that fails. -/
theorem triple_executeMany (ss : List Statement) :
    Triple srv st (ss.filterMap fun s => (render s).toOption) (fun _ => True)
      (executeMany srv ss) fun _ s => ss ≠ [] → Open s := by
  induction ss with
  | nil => exact (Triple.ret []).pre fun _ _ _ h => absurd rfl h
  | cons s ss ih =>
    have hsplit : ((s :: ss).filterMap fun s => (render s).toOption) =
        (render s).toOption.toList ++ (ss.filterMap fun s => (render s).toOption) := by
      rw [List.filterMap_cons]
      cases (render s).toOption <;> rfl
    rw [hsplit, executeMany]
    refine (triple_execute s).bind fun o => ?_
    rw [← map_eq_pure_bind]
    refine (ih.frame.pre fun _ _ h => ⟨trivial, h⟩).map _ fun _ _ h _ => ?_
    exact h.2

/-- An existence check is executed if it can be rendered. -/
theorem triple_rowExists (table : String) (conditions : List ExistsCondition)
    (join : Option Join) :
    Triple srv st (renderExists table conditions join).toOption.toList (fun _ => True)
      (rowExists srv table conditions join) fun _ => Open :=
  triple_bound _ _ (fun _ => rfl) fun b => by
    refine (triple_firstRow b).bind fun r => ?_
    exact Triple.const _

theorem triple_ping : Triple srv st [] (fun _ => True) (ping srv) fun _ => Open :=
  triple_ask_open (fun _ => rfl) rfl (executed_nil rfl) fun _ => trivial

end Connector

/-- Every call takes a course that executes its statements. If it gives a value, a connection is
open, unless there was nothing to do. -/
theorem Command.triple_run (c : Command) :
    Call.Triple srv st c.statements (fun _ => True) (c.run srv)
      fun _ s => c ≠ .executeMany [] → Call.Open s := by
  cases c with
  | fetchOne sql params => exact (Connector.triple_fetchOne sql params).map _ fun _ _ h _ => h
  | fetchAll sql params => exact (Connector.triple_fetchAll sql params).map _ fun _ _ h _ => h
  | upsert sql params => exact (Connector.triple_upsert sql params).map _ fun _ _ h _ => h
  | execute s => exact (Connector.triple_execute s).map _ fun _ _ h _ => h
  | executeMany ss =>
    refine (Connector.triple_executeMany ss).map _ fun _ _ h hc => h ?_
    rintro rfl
    exact hc rfl
  | rowExists table conditions join =>
    exact (Connector.triple_rowExists table conditions join).map _ fun _ _ h _ => h
  | ping => exact Connector.triple_ping.map _ fun _ _ h _ => h

end PgRole
