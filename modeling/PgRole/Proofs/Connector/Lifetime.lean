import PgRole.Connector.Script
import PgRole.Proofs.Connector.Calls

/-!
# The life of a connector

What holds of every call of a connector that a store gave, after any calls before it and for any
server.

* `Command.run_connection`: what a result says about the connection.
* `Command.run_once`: nothing is tried twice.
-/

namespace PgRole

open Sql

variable {σ : Type} {srv : Server σ} {st : σ} {s s' : Session σ}

/-! ## Sessions of a connector -/

/-- A connector of a store is not connected, and has a port to connect to. -/
theorem Connector.ofStore_eq_ok {store : Store} {role : String} {c : Connector}
    (h : ofStore store role = .ok c) :
    c.role = role ∧ c.isConnected = false ∧ c.profile.portNumber?.isSome := by
  obtain ⟨p, -, h⟩ := bind_eq_ok_iff.1 h
  obtain ⟨_, hvalid, h⟩ := bind_eq_ok_iff.1 h
  cases h
  refine ⟨rfl, rfl, ?_⟩
  unfold Store.validateProfile at hvalid
  split at hvalid
  · cases hvalid
  · split_ifs at hvalid with hp
    exact hp

namespace Session

/-- A call takes a course from any sound session. -/
theorem Sound.run (hs : s.Sound srv st) (d : Command) :
    ∃ qs, Course srv st d.statements s qs (error? ((d.run srv).runOn s).1)
      ((d.run srv).runOn s).2 :=
  (d.triple_run s hs trivial).1

/-- Calls one after the other leave a sound session, with the role and the profile that it had. -/
theorem Sound.serve (hs : s.Sound srv st) (ds : List Command) :
    (s.serve srv ds).Sound srv st ∧
      (s.serve srv ds).connector.role = s.connector.role ∧
      (s.serve srv ds).connector.profile = s.connector.profile := by
  induction ds generalizing s with
  | nil => exact ⟨hs, rfl, rfl⟩
  | cons d ds ih =>
    obtain ⟨qs, hcourse⟩ := hs.run d
    obtain ⟨hsound, hrole, hprofile⟩ := ih hcourse.sound
    exact ⟨hsound, hrole.trans hcourse.role, hprofile.trans hcourse.profile⟩

/-- All sessions of a connector of a store are sound. -/
theorem sound_of_ofStore {store : Store} {role : String} {c : Connector}
    (h : Connector.ofStore store role = .ok c) (srv : Server σ) (st : σ) (ds : List Command) :
    ((start c st).serve srv ds).Sound srv st ∧
      ((start c st).serve srv ds).connector.role = role ∧
      ((start c st).serve srv ds).connector.profile = c.profile := by
  obtain ⟨hrole, -, hp⟩ := Connector.ofStore_eq_ok h
  have hstart : (start c st).Sound srv st := ⟨hp, rfl⟩
  obtain ⟨hsound, hr, hprofile⟩ := hstart.serve ds
  exact ⟨hsound, hr.trans hrole, hprofile⟩

end Session

/-- A call leaves no connection open if it fails with an error of the connection, and one if it
fails with an error of the query or gives a value, where there was something to do. An error of an
argument does not close it, and neither does a panic. Other errors there are none, and role and
profile stay. -/
theorem Command.run_connection {store : Store} {role : String} {c : Connector}
    (h : Connector.ofStore store role = .ok c) (srv : Server σ) (st : σ) (ds : List Command)
    (d : Command) {s s' : Session σ} {r : Attempt Error Response}
    (hs : (Session.start c st).serve srv ds = s) (hr : (d.run srv).runOn s = (r, s')) :
    (∀ e, r = .error (.error e) → e.kind = .connection → ¬ s'.connector.isConnected) ∧
    (∀ e, r = .error (.error e) → e.kind = .query → s'.connector.isConnected) ∧
    (∀ v, r = .ok v → d ≠ .executeMany [] → s'.connector.isConnected) ∧
    (∀ e, r = .error (.error e) → e.kind = .invalidArgument → s.connector.isConnected →
      s'.connector.isConnected) ∧
    (∀ v, r = .ok v → s.connector.isConnected → s'.connector.isConnected) ∧
    (r = .error .panic → s.connector.isConnected → s'.connector.isConnected) ∧
    (s.connector.isConnected → ¬ s'.connector.isConnected →
      ∃ e, r = .error (.error e) ∧ e.kind = .connection) ∧
    (∀ e, r = .error (.error e) → e.kind ≠ .configuration ∧ e.kind ≠ .internal) ∧
    s'.connector.role = role ∧ s'.connector.profile = c.profile := by
  obtain ⟨hsound, hrole, hprofile⟩ := Session.sound_of_ofStore h srv st ds
  rw [hs] at hsound hrole hprofile
  obtain ⟨⟨qs, hcourse⟩, hvalue⟩ := d.triple_run s hsound trivial
  rw [hr] at hcourse hvalue
  -- the course of the call says, once for all kinds, how its end agrees with the connection
  have hagrees : ∀ e, r = .error (.error e) →
      e.kind.Agrees s.connector.isConnected s'.connector.isConnected := by
    rintro e rfl
    exact hcourse.agrees (.error e) rfl
  have hpanic : r = .error .panic → s.connector.isConnected → s'.connector.isConnected := by
    rintro rfl
    exact hcourse.agrees .panic rfl
  have hkeeps : ∀ v, r = .ok v → s.connector.isConnected → s'.connector.isConnected := by
    rintro v rfl
    exact hcourse.connected
  refine ⟨?_, ?_, hvalue, ?_, hkeeps, hpanic, ?_, ?_, hcourse.role.trans hrole,
    hcourse.profile.trans hprofile⟩
  · intro e he hk
    rw [(Error.Kind.agrees_iff.1 (hagrees e he)).1 hk]
    exact Bool.false_ne_true
  · intro e he hk
    exact (Error.Kind.agrees_iff.1 (hagrees e he)).2.1 hk
  · intro e he hk
    exact (Error.Kind.agrees_iff.1 (hagrees e he)).2.2.1 hk
  · -- each end but an error of the connection leaves an open connection open
    intro hbefore hafter
    rcases r with (e | _) | v
    · obtain ⟨-, hquery, hargument, hconfiguration, hinternal⟩ :=
        Error.Kind.agrees_iff.1 (hagrees e rfl)
      refine ⟨e, rfl, ?_⟩
      cases hk : e.kind with
      | connection => rfl
      | query => exact absurd (hquery hk) hafter
      | invalidArgument => exact absurd (hargument hk hbefore) hafter
      | configuration => exact absurd hk hconfiguration
      | internal => exact absurd hk hinternal
    · exact absurd (hpanic rfl hbefore) hafter
    · exact absurd (hkeeps v rfl hbefore) hafter
  · intro e he
    exact (Error.Kind.agrees_iff.1 (hagrees e he)).2.2.2

/-- A store of one role. -/
def Store.single : Store := Keyed.ofList [("r", ⟨"db", "u", "p", "h", "5432"⟩)]

/-- The connector for its role. -/
def Connector.single : Connector := ⟨"r", ⟨"db", "u", "p", "h", "5432"⟩, false⟩

/-- A server that lets anyone in and hangs up when it should execute something. -/
def Script.hangingUp : Script :=
  (start "h" .anyone).withLines [{ Line.silent with hangUp := some .execute }]

/-- Two deletions. -/
def Command.deletions : Command := .executeMany [.delete "t" [] .and, .delete "u" [] .and]

/-- The error of a connection that was lost. -/
def Error.connectionLost : Error :=
  .connection "PostgreSQL connection lost: error communicating with database"

/-- The second of two calls loses the connection that the first has opened. -/
theorem Command.run_connection_hangUp : ∃ s s',
    (Session.start .single (some .hangingUp)).serve Script.server [.ping] = s ∧
    (deletions.run Script.server).runOn s = (.error (.error .connectionLost), s') ∧
    s.connector.isConnected ∧ ¬ s'.connector.isConnected := by
  have hstore : Connector.ofStore .single "r" = .ok .single := rfl
  refine ⟨_, _, rfl, rfl, rfl, ?_⟩
  exact (run_connection hstore Script.server (some .hangingUp) [.ping] deletions rfl rfl).1
    .connectionLost rfl rfl

/-! ## Nothing is tried twice -/

/-- What a failure is followed by: nothing, and the end of the call that tells of it. -/
theorem Ends.last {l m : List Exchange} {q : Request} {a : Abort Failure}
    {e : Option (Abort Error)} (h : Ends (l ++ (q, some a) :: m) e) :
    m = [] ∧ ∃ x, e = some x ∧ x.Reports a := by
  generalize hlog : l ++ (q, some a) :: m = log at h
  cases h with
  | well h =>
    subst hlog
    have := h (q, some a) (by simp)
    cases this
  | @failed l' q' a' x h hx =>
    rcases List.eq_nil_or_concat m with rfl | ⟨m, z, rfl⟩
    · obtain ⟨-, hlast⟩ := List.append_inj' hlog rfl
      cases hlast
      exact ⟨rfl, x, rfl, hx⟩
    · rw [List.concat_eq_append, ← List.cons_append, ← List.append_assoc] at hlog
      obtain ⟨hfront, -⟩ := List.append_inj' hlog rfl
      have := h (q, some a) (hfront ▸ by simp)
      cases this

/-- A list of statements fails with the first that fails, and nothing is done after it. -/
theorem Connector.exists_of_executeMany_eq_error {ss : List Statement} {s s' : Session σ}
    {e : Abort Error} (h : (executeMany srv ss).runOn s = (.error e, s')) :
    ∃ before t after os s₁, ss = before ++ t :: after ∧
      (executeMany srv before).runOn s = (.ok os, s₁) ∧
      (execute srv t).runOn s₁ = (.error e, s') := by
  induction ss generalizing s with
  | nil => cases h
  | cons t ss ih =>
    rw [executeMany, Call.runOn_bind] at h
    cases ht : (execute srv t).runOn s with
    | mk r s₁ =>
      rw [ht] at h
      cases r with
      | error e' =>
        -- the first statement fails, and nothing stands before it
        cases h
        exact ⟨[], t, ss, [], s, rfl, rfl, ht⟩
      | ok o =>
        dsimp only at h
        rw [Call.runOn_bind] at h
        cases hrest : (executeMany srv ss).runOn s₁ with
        | mk r s₂ =>
          rw [hrest] at h
          cases r with
          | ok os => cases h
          | error e' =>
            cases h
            obtain ⟨before, t', after, os, s₂, rfl, hbefore, ht'⟩ := ih hrest
            refine ⟨t :: before, t', after, o :: os, s₂, rfl, ?_, ht'⟩
            rw [executeMany, Call.runOn_bind, ht]
            dsimp only
            rw [Call.runOn_bind, hbefore]
            rfl

/-- Nothing is tried twice. A call opens at most one connection, before anything else and only if
none was open. It executes its statements in their order, each at most once, and only after the
statement was prepared on this connection, with values only after it was described there. The first
failure is the last message and the end of the call, and if it breaks the connection, the connection
is given up; of several statements those after the one that fails are not looked at. -/
theorem Command.run_once {store : Store} {role : String} {c : Connector}
    (h : Connector.ofStore store role = .ok c) (srv : Server σ) (st : σ) (ds : List Command)
    (d : Command) {s s' : Session σ} {r : Attempt Error Response}
    (hs : (Session.start c st).serve srv ds = s) (hr : (d.run srv).runOn s = (r, s')) :
    ∃ qs, s'.sent = s.sent ++ qs ∧
    qs.countP Request.isDial ≤ (if s.connector.isConnected then 0 else 1) ∧
    (¬ s.connector.isConnected → qs = [] ∨ ∃ q ∈ qs.head?, q.isDial) ∧
    (∃ done rest, d.statements = done ++ rest ∧ (∀ v, r = .ok v → rest = []) ∧
      List.Forall₂ (fun b q => q.Executes b) done (qs.filter Request.isExecution)) ∧
    (∀ l m sql args limit, qs = l ++ .execute sql args limit :: m →
      Answered (srv.log st (s.sent ++ l)) (.prepare sql) ∧
        (args ≠ [] → Answered (srv.log st (s.sent ++ l)) (.describe sql))) ∧
    (∀ l m q a, srv.log s.server qs = l ++ (q, some a) :: m → m = [] ∧ ∃ e, r = .error e ∧
      e.Reports a ∧ ∀ f, a = .error f → f.isBreaking → ¬ s'.connector.isConnected) ∧
    (∀ ss e, d = .executeMany ss → r = .error e → ∃ before t after os s₁,
      ss = before ++ t :: after ∧ (Connector.executeMany srv before).runOn s = (.ok os, s₁) ∧
      (Connector.execute srv t).runOn s₁ = (.error e, s')) := by
  obtain ⟨hsound, -, -⟩ := Session.sound_of_ofStore h srv st ds
  rw [hs] at hsound
  obtain ⟨qs, hcourse⟩ := hsound.run d
  rw [hr] at hcourse
  refine ⟨qs, hcourse.sent, ?_, ?_, ?_, ?_, ?_, ?_⟩
  · -- an open connection leaves no room for a dial, a closed one for a single dial
    have hdials : qs.countP Request.isDial + s.up ≤ 1 := by
      refine hcourse.dials.trans ?_
      split_ifs
      · exact s'.up_le
      · exact le_rfl
    by_cases hc : s.connector.isConnected
    · rw [Session.up, hc] at hdials
      rw [if_pos hc]
      exact Nat.le_of_succ_le_succ hdials
    · rw [if_neg hc]
      exact (Nat.le_add_right _ _).trans hdials
  · intro hc
    have hfirst := hcourse.first.resolve_left hc
    cases qs with
    | nil => exact .inl rfl
    | cons q qs => exact .inr ⟨q, rfl, hfirst⟩
  · obtain ⟨done, rest, hstatements, hrest, hdone⟩ := hcourse.executed
    refine ⟨done, rest, hstatements, ?_, hdone⟩
    rintro v rfl
    exact hrest rfl
  · -- what is sent after others is ready after them, and the log so far is the one of the server
    rintro l m sql args limit rfl
    have hready := hcourse.ready
    rw [srv.log_append, allReady_append, hsound.server, ← srv.log_append] at hready
    exact hready.2.1
  · intro l m q a hlog
    have hends := hcourse.ends
    rw [hlog] at hends
    obtain ⟨hm, e, he, hreports⟩ := hends.last
    cases r with
    | ok v => cases he
    | error e' =>
      cases he
      refine ⟨hm, e, rfl, hreports, ?_⟩
      rintro f rfl hf
      -- a failure that breaks the connection is told as an error of the connection
      obtain ⟨e, hkind⟩ : ∃ x : Error, e = .error x ∧ x.kind = .connection := by
        cases hreports with
        | error kind =>
          exact ⟨_, rfl, kind.resolve_right fun hquery => by simp [hf] at hquery⟩
      obtain ⟨rfl, hk⟩ := hkind
      have := (Error.Kind.agrees_iff.1 (hcourse.agrees (.error e) rfl)).1 hk
      exact Bool.eq_false_iff.1 this
  · rintro ss e rfl rfl
    refine Connector.exists_of_executeMany_eq_error ?_
    rw [run, map_eq_pure_bind, Call.runOn_bind] at hr
    cases hss : (Connector.executeMany srv ss).runOn s with
    | mk r s₁ =>
      rw [hss] at hr
      cases r with
      | ok os => cases hr
      | error e' =>
        cases hr
        rfl

/-- The first of two deletions loses the connection; none is opened, and the second is not tried. -/
theorem Command.run_once_hangUp : ∃ s s' qs,
    (Session.start .single (some .hangingUp)).serve Script.server [.ping] = s ∧
    (deletions.run Script.server).runOn s = (.error (.error .connectionLost), s') ∧
    s'.sent = s.sent ++ qs ∧ qs.countP Request.isDial = 0 ∧ ∃ before t after os s₁,
      [.delete "t" [] .and, .delete "u" [] .and] = before ++ t :: after ∧
      (Connector.executeMany Script.server before).runOn s = (.ok os, s₁) ∧
      (Connector.execute Script.server t).runOn s₁ = (.error (.error .connectionLost), s') := by
  have hstore : Connector.ofStore .single "r" = .ok .single := rfl
  obtain ⟨qs, hsent, hdials, -, -, -, -, hmany⟩ :=
    run_once hstore Script.server (some .hangingUp) [.ping] deletions rfl rfl
  exact ⟨_, _, qs, rfl, rfl, hsent, Nat.le_zero.1 hdials, hmany _ _ rfl rfl⟩

end PgRole
