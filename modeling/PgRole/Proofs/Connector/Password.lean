import PgRole.Proofs.Connector.Lifetime
import PgRole.Proofs.Credentials.Password

/-!
# Two connectors with different passwords

Two sessions are alike if their connectors differ at most in the passwords of their profiles.
`Call.Alike` relates two calls that, from any such sessions, give the same and leave sessions alike,
unless the server asks for the password on the way: only then is it looked at, and a message with it
is sent. There is one rule a construct, and every call of a connector is `Alike` itself.
-/

namespace PgRole

variable {σ α β : Type}

/-! ## Connectors -/

/-- Connectors for one role, in the same state, that differ at most in their passwords. -/
structure Connector.Alike (c c' : Connector) : Prop where
  role : c.role = c'.role
  profile : c.profile.Alike c'.profile
  isConnected : c.isConnected = c'.isConnected

namespace Connector

theorem Alike.refl (c : Connector) : c.Alike c := ⟨rfl, ⟨rfl, rfl, rfl, rfl⟩, rfl⟩

/-- What a connector shows of itself tells nothing of its password. -/
theorem debug_eq_of_alike {c c' : Connector} (hr : c.role = c'.role)
    (hp : c.profile.Alike c'.profile) (hc : c.isConnected = c'.isConnected) :
    c.debug = c'.debug := by
  unfold debug
  rw [hr, hp.debug_eq, hc]

/-- Stores that differ in passwords give connectors that do, or the same fault. -/
theorem alike_ofStore {s s' : Store} (h : s.Alike s') (role : String) :
    SameUpTo Connector.Alike (ofStore s role) (ofStore s' role) := by
  unfold ofStore
  refine (h.resolve role).bind fun p p' hp => ?_
  refine (SameUpTo.of_eq Eq.refl (Store.validateProfile_eq_of_alike hp role)).bind fun _ _ _ => ?_
  exact .ok ⟨rfl, hp, rfl⟩

end Connector

/-! ## Sessions -/

/-- Whether a message has the password. -/
def Request.isPassword : Request → Bool
  | password _ => true
  | _ => false

namespace Session

/-- Sessions whose connectors are alike, with the same server and the same messages. -/
structure Alike (s s' : Session σ) : Prop where
  connector : s.connector.Alike s'.connector
  server : s.server = s'.server
  sent : s.sent = s'.sent

theorem Alike.refl (s : Session σ) : s.Alike s := ⟨.refl _, rfl, rfl⟩

/-- After a session, two results with the sessions then: they are the same and the sessions alike,
unless the password was sent for the first. -/
def SameUnlessAsked (s : Session σ) (r r' : α × Session σ) : Prop :=
  ∃ qs, r.2.sent = s.sent ++ qs ∧
    ((∃ q ∈ qs, q.isPassword) ∨ r.1 = r'.1 ∧ r.2.Alike r'.2)

namespace SameUnlessAsked

variable {s s₁ s₁' : Session σ} {r r' : α × Session σ}

theorem of_eq {a a' : α} (hsent : s₁.sent = s.sent) (ha : a = a') (hs : s₁.Alike s₁') :
    s.SameUnlessAsked (a, s₁) (a', s₁') :=
  ⟨[], by simp [hsent], .inr ⟨ha, hs⟩⟩

/-- What follows is the same if it is so from sessions alike. After the password was sent only the
messages of the first matter. -/
theorem trans {t t' : β × Session σ} (h : s.SameUnlessAsked r r')
    (hsent : ∃ qs, t.2.sent = r.2.sent ++ qs)
    (ht : r.1 = r'.1 → r.2.Alike r'.2 → r.2.SameUnlessAsked t t') : s.SameUnlessAsked t t' := by
  obtain ⟨qs, hfirst, hr⟩ := h
  rcases hr with ⟨q, hq, hpassword⟩ | ⟨hr, hs⟩
  · obtain ⟨qs', hsent⟩ := hsent
    refine ⟨qs ++ qs', ?_, .inl ⟨q, List.mem_append_left qs' hq, hpassword⟩⟩
    rw [hsent, hfirst, List.append_assoc]
  · obtain ⟨qs', hrest, ht⟩ := ht hr hs
    refine ⟨qs ++ qs', by rw [hrest, hfirst, List.append_assoc], ht.imp_left ?_⟩
    rintro ⟨q, hq, hpassword⟩
    exact ⟨q, List.mem_append_right qs hq, hpassword⟩

/-- Where no password was sent, the results are the same and the sessions alike. -/
theorem elim (h : s.SameUnlessAsked r r') (hquiet : ∀ q ∈ r.2.sent, q.isPassword = false) :
    r.1 = r'.1 ∧ r.2.Alike r'.2 := by
  obtain ⟨qs, hsent, hr⟩ := h
  refine hr.resolve_left ?_
  rintro ⟨q, hq, hpassword⟩
  have := hquiet q (hsent ▸ List.mem_append_right s.sent hq)
  simp [this] at hpassword

end SameUnlessAsked

end Session

open Session (SameUnlessAsked)

/-! ## Calls -/

namespace Call

/-- From sessions alike, calls that give the same and leave sessions alike, unless the first sends
the password. -/
def Alike (x x' : Call σ α) : Prop :=
  ∀ s s' : Session σ, s.Alike s' → s.SameUnlessAsked (x.runOn s) (x'.runOn s')

namespace Alike

variable {srv : Server σ}

/-- Messages are only added. -/
theorem sent_runOn {x x' : Call σ α} (hx : x.Alike x') (s : Session σ) :
    ∃ qs, (x.runOn s).2.sent = s.sent ++ qs := by
  obtain ⟨qs, hsent, -⟩ := hx s s (.refl s)
  exact ⟨qs, hsent⟩

theorem ofAttempt (r : Attempt Error α) : Alike (ofAttempt r : Call σ α) (ofAttempt r) :=
  fun _ _ hs => .of_eq rfl rfl hs

theorem ret (a : α) : Alike (pure a : Call σ α) (pure a) := ofAttempt (.ok a)

theorem throw (a : Abort Error) : Alike (throw a : Call σ α) (throw a) := ofAttempt (.error a)

/-- A step and what follows it: once the server has asked for the password, the rest does not
matter. -/
theorem bind {x x' : Call σ α} {f f' : α → Call σ β} (hx : x.Alike x')
    (hf : ∀ a, (f a).Alike (f' a)) : (x >>= f).Alike (x' >>= f') := by
  intro s s' hs
  have hfirst := hx s s' hs
  rw [runOn_bind, runOn_bind]
  generalize x.runOn s = r, x'.runOn s' = r' at hfirst ⊢
  obtain ⟨r, s₁⟩ := r
  obtain ⟨r', s₁'⟩ := r'
  refine hfirst.trans ?_ ?_
  · cases r with
    | ok a => exact (hf a).sent_runOn s₁
    | error e => exact ⟨[], by simp⟩
  · rintro rfl hs₁
    cases r with
    | ok a => exact hf a s₁ s₁' hs₁
    | error e => exact .of_eq rfl rfl hs₁

theorem map {x x' : Call σ α} (f : α → β) (hx : x.Alike x') : (f <$> x).Alike (f <$> x') := by
  rw [map_eq_pure_bind, map_eq_pure_bind]
  exact hx.bind fun a => ret (f a)

/-- What is done with the session does not depend on the password. -/
theorem read {f f' : Session σ → Call σ α} (hf : ∀ s s', s.Alike s' → (f s).Alike (f' s')) :
    Alike (get >>= f) (get >>= f') := by
  intro s s' hs
  rw [runOn_bind, runOn_bind]
  exact hf s s' hs s s' hs

theorem exchange (q : Request) (answer : σ → α × σ) :
    Alike (exchange q answer) (exchange q answer) := by
  intro s s' hs
  rw [runOn_exchange, runOn_exchange, hs.server]
  exact ⟨[q], rfl, .inr ⟨rfl, hs.connector, rfl, congrArg (· ++ [q]) hs.sent⟩⟩

/-- The password is sent only when the server asks for it. -/
theorem password (text text' : String) :
    Alike (Call.exchange (.password text) (srv.password text))
      (Call.exchange (.password text') (srv.password text')) :=
  fun _ _ _ => ⟨[.password text], rfl, .inl ⟨_, List.mem_singleton_self _, rfl⟩⟩

theorem setConnected (b : Bool) : Alike (setConnected b : Call σ Unit) (setConnected b) :=
  fun _ _ hs => .of_eq rfl rfl ⟨⟨hs.connector.role, hs.connector.profile, rfl⟩, hs.server, hs.sent⟩

theorem orFail (a : Answer α) : Alike (orFail a : Call σ α) (orFail a) := by
  rcases a with (f | _) | a
  · show Alike (fail f : Call σ α) (fail f)
    unfold fail
    split_ifs
    · exact (setConnected false).bind fun _ => throw _
    · exact throw _
  · exact throw .panic
  · exact ret a

/-- A server is reached and admits alike, unless it asks for the password. -/
theorem handshake {p p' : Profile} (hp : p.Alike p') (port : Nat) :
    Alike (handshake srv p port) (handshake srv p' port) := by
  unfold Call.handshake
  rw [hp.host, hp.user, hp.name]
  refine (exchange _ _).bind fun a => ?_
  cases a with
  | error f => exact ret _
  | ok =>
    refine (exchange _ _).bind fun g => ?_
    cases g with
    | admitted => exact ret _
    | failed f => exact ret _
    | passwordDue => exact password _ _

/-- So is a connection opened. -/
theorem connect : Alike (connect srv) (connect srv) := by
  refine read fun s s' hs => ?_
  have hc := hs.connector
  dsimp only
  rw [hc.isConnected, hc.profile.portNumber?_eq, hc.role, hc.profile.port]
  split_ifs
  · exact ret ()
  · cases s'.connector.profile.portNumber? with
    | none => exact throw _
    | some port =>
      refine (handshake hc.profile port).bind fun a => ?_
      rcases a with (f | _) | ⟨⟨⟩⟩
      · exact throw _
      · exact throw .panic
      · exact setConnected true

theorem ask (q : Request) (answer : σ → Answer α × σ) :
    Alike (ask srv q answer) (ask srv q answer) :=
  connect.bind fun _ => (exchange _ _).bind orFail

variable (b : Sql.Bound)

theorem convert : Alike (convert srv b) (convert srv b) := by
  unfold Call.convert
  dsimp only
  split_ifs
  · exact (ret []).bind fun types => ofAttempt _
  · exact ((ask _ _).map _).bind fun types => ofAttempt _

theorem run (limit : Nat) : Alike (run srv b limit) (run srv b limit) :=
  (convert b).bind fun _ => (ask _ _).bind fun d =>
    (exchange _ _).bind fun a => (orFail a).bind fun r => ret (d, r)

theorem firstRow : Alike (firstRow srv b) (firstRow srv b) := by
  refine (run b 1).bind fun (d, r) => ?_
  dsimp only
  cases r.rows with
  | nil => exact ret none
  | cons row rows => exact (ofAttempt _).map _

theorem allRows : Alike (allRows srv b) (allRows srv b) := by
  refine (run b 0).bind fun (d, r) => ?_
  dsimp only
  split_ifs
  · exact (ask _ _).bind fun d => ofAttempt _
  · exact (ret d).bind fun d => ofAttempt _

theorem write : Alike (write srv b) (write srv b) := by
  unfold Call.write
  split_ifs
  · exact (ask _ _).bind fun tags => ret _
  · exact (run b 0).bind fun _ => ret _

end Alike

end Call

open Call

variable (srv : Server σ)

namespace Connector

theorem alike_fetchOne (sql : String) (params : Option Sql.Params) :
    Call.Alike (fetchOne srv sql params) (fetchOne srv sql params) :=
  (Alike.ofAttempt _).bind fun b => .firstRow b

theorem alike_fetchAll (sql : String) (params : Option Sql.Params) :
    Call.Alike (fetchAll srv sql params) (fetchAll srv sql params) :=
  (Alike.ofAttempt _).bind fun b => .allRows b

theorem alike_upsert (sql : String) (params : Option Sql.Params) :
    Call.Alike (upsert srv sql params) (upsert srv sql params) :=
  (Alike.ofAttempt _).bind fun b => .write b

theorem alike_execute (t : Statement) : Call.Alike (execute srv t) (execute srv t) := by
  refine (Alike.ofAttempt _).bind fun b => ?_
  cases t with
  | select t f ws j m =>
    cases m with
    | one => exact (Alike.firstRow b).map _
    | all => exact (Alike.allRows b).map _
  | insert t sets => exact (Alike.write b).map _
  | update t sets ws j => exact (Alike.write b).map _
  | delete t ws j => exact (Alike.write b).map _

theorem alike_executeMany (ss : List Statement) :
    Call.Alike (executeMany srv ss) (executeMany srv ss) := by
  induction ss with
  | nil => exact .ret []
  | cons t ss ih => exact (alike_execute srv t).bind fun o => ih.bind fun os => .ret (o :: os)

theorem alike_rowExists (t : String) (cs : List ExistsCondition) (j : Option Join) :
    Call.Alike (rowExists srv t cs j) (rowExists srv t cs j) :=
  (Alike.ofAttempt _).bind fun b => (Alike.firstRow b).bind fun _ => .ret _

theorem alike_ping : Call.Alike (ping srv) (ping srv) := .ask _ _

/-- Closing does not look at the password. -/
theorem alike_close : Call.Alike (close srv) (close srv) := by
  refine .read fun s s' hs => ?_
  rw [hs.connector.isConnected]
  split_ifs
  · refine (Alike.setConnected false).bind fun _ => (Alike.exchange _ _).bind fun a => ?_
    rcases a with (f | _) | ⟨⟨⟩⟩
    · exact .throw _
    · exact .throw .panic
    · exact .ret ()
  · exact .ret ()

end Connector

/-- No call looks at the password but to send it. -/
theorem Command.alike_run (d : Command) : Call.Alike (d.run srv) (d.run srv) := by
  cases d with
  | fetchOne sql params => exact (Connector.alike_fetchOne srv sql params).map _
  | fetchAll sql params => exact (Connector.alike_fetchAll srv sql params).map _
  | upsert sql params => exact (Connector.alike_upsert srv sql params).map _
  | execute t => exact (Connector.alike_execute srv t).map _
  | executeMany ss => exact (Connector.alike_executeMany srv ss).map _
  | rowExists t cs j => exact (Connector.alike_rowExists srv t cs j).map _
  | ping => exact (Connector.alike_ping srv).map _

/-- Calls one after the other lead from sessions alike to sessions alike. -/
theorem Session.alike_serve (ds : List Command) {s s' : Session σ} (hs : s.Alike s') :
    s.SameUnlessAsked ((), s.serve srv ds) ((), s'.serve srv ds) := by
  induction ds generalizing s s' with
  | nil => exact .of_eq rfl rfl hs
  | cons d ds ih =>
    refine (d.alike_run srv s s' hs).trans ?_ fun _ hs₁ => ih hs₁
    obtain ⟨qs, hsent, -⟩ := ih (.refl ((d.run srv).runOn s).2)
    exact ⟨qs, hsent⟩

end PgRole
