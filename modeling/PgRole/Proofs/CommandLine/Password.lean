import PgRole.CommandLine.Run
import PgRole.Proofs.Connector.Password
import PgRole.Proofs.Connector.Sequence

/-!
# Passwords do not show

Two stores that differ in passwords only cannot be told apart by what is shown of them, nor by runs
of the program against a server that does not ask for the password: both runs print the same, with
the same exit code, and send the same messages.

* `Store.passwords_hidden`: all that is shown, of stores, of connectors and by the program.
-/

namespace PgRole

open CommandLine

variable {σ : Type} {s s' : Store} {w w' : Surroundings σ}

namespace CommandLine

/-- The list of roles tells nothing of passwords. -/
theorem rolesText_eq_of_alike (h : s.Alike s') (asJson : Bool) :
    rolesText asJson s = rolesText asJson s' := by
  unfold rolesText rolesJson rolesLines
  have hjson : s.entries.map (fun e => roleJson e.1 e.2) =
      s'.entries.map fun e => roleJson e.1 e.2 := by
    refine h.map_entries_eq fun role p p' hp => ?_
    unfold roleJson
    rw [hp.host, hp.name, hp.port, hp.user]
  have hlines : s.entries.map (fun e => e.1 ++ "\t" ++ e.2.summary) =
      s'.entries.map fun e => e.1 ++ "\t" ++ e.2.summary := by
    refine h.map_entries_eq fun role p p' hp => ?_
    rw [hp.summary_eq]
  rw [hjson, hlines]

/-! ## Commands -/

section Commands

variable {c c' : Connector} {t t' : Session σ}

/-- Asking whether the server answers prints the same, unless the server asks for the password. -/
theorem alike_ping (hw : w'.server = w.server) (hc : c.Alike c') (ht : t.Alike t') :
    t.SameUnlessAsked (ping w c t) (ping w' c' t') := by
  unfold ping
  rw [hw, hc.profile.summary_eq]
  have hping := Connector.alike_ping w.server t t' ht
  generalize (Connector.ping w.server).runOn t = x, (Connector.ping w.server).runOn t' = x'
    at hping ⊢
  obtain ⟨r, t₁⟩ := x
  obtain ⟨r', t₁'⟩ := x'
  refine hping.trans ?_ ?_
  · cases r with
    | error e => exact ⟨[], by simp⟩
    | ok =>
      obtain ⟨qs, hsent⟩ := (Connector.alike_close w.server).sent_runOn t₁
      refine ⟨qs, ?_⟩
      dsimp only
      rw [← hsent]
      rcases (Connector.close w.server).runOn t₁ with ⟨_ | _, _⟩ <;> rfl
  · -- the first call went alike, and so does closing after it
    rintro rfl ht₁
    cases r with
    | error e => exact .of_eq rfl rfl ht₁
    | ok =>
      have hclose := Connector.alike_close w.server t₁ t₁' ht₁
      dsimp only
      generalize (Connector.close w.server).runOn t₁ = x, (Connector.close w.server).runOn t₁' = x'
        at hclose ⊢
      obtain ⟨r, t₂⟩ := x
      obtain ⟨r', t₂'⟩ := x'
      refine hclose.trans ?_ ?_
      · exact ⟨[], by cases r <;> simp⟩
      · rintro rfl ht₂
        cases r with
        | ok => exact .of_eq rfl rfl ht₂
        | error e => exact .of_eq rfl rfl ht₂

theorem alike_queried (srv : Server σ) (sql : String) (params : Option Sql.Params) (all : Bool) :
    Call.Alike (queried srv sql params all) (queried srv sql params all) := by
  unfold queried
  split_ifs
  · exact (Connector.alike_fetchAll srv sql params).bind fun _ => .ret _
  · refine (Connector.alike_fetchOne srv sql params).bind fun r => ?_
    cases r with
    | some r => exact .ret _
    | none => exact .ret _

/-- A query prints the same, unless the server asks for the password. -/
theorem alike_query (hw : w'.server = w.server) (sql : String) (params : Sql.Params) (all : Bool)
    (ht : t.Alike t') :
    t.SameUnlessAsked (query w sql params all t) (query w' sql params all t') := by
  unfold query
  rw [hw]
  have hqueried := alike_queried w.server sql (if params.isEmpty then none else some params) all
  have hstep := hqueried.bind (fun j => (Connector.alike_close w.server).bind fun _ => .ret j)
    t t' ht
  dsimp only
  generalize Call.runOn _ t = x, Call.runOn _ t' = x' at hstep ⊢
  obtain ⟨r, t₁⟩ := x
  obtain ⟨r', t₁'⟩ := x'
  refine hstep.trans ?_ ?_
  · exact ⟨[], by cases r <;> simp⟩
  · rintro rfl ht₁
    cases r with
    | ok j => exact .of_eq rfl rfl ht₁
    | error e => exact .of_eq rfl rfl ht₁

theorem connector_eq {file : String} (hs : store w file = .ok s) (role : String) :
    connector w file role = (Connector.ofStore s role).mapError fun f => .error f.error := by
  unfold connector
  rw [hs]
  rfl

/-- A role that both files have is used by alike connectors; one that cannot be used is the same
error. -/
theorem alike_withConnector {file role : String} {state : σ}
    {use use' : Connector → Session σ → Report × Session σ} (h : s.Alike s')
    (hs : store w file = .ok s) (hs' : store w' file = .ok s')
    (hu : ∀ c c' (t t' : Session σ), c.Alike c' → t.Alike t' →
      t.SameUnlessAsked (use c t) (use' c' t'))
    (hquiet : ∀ q ∈ (withConnector w file role state use).sent, q.isPassword = false) :
    (withConnector w file role state use).report = (withConnector w' file role state use').report ∧
    (withConnector w file role state use).sent = (withConnector w' file role state use').sent := by
  unfold withConnector at hquiet ⊢
  rw [connector_eq hs] at hquiet ⊢
  rw [connector_eq hs']
  have hc := Connector.alike_ofStore h role
  generalize Connector.ofStore s role = x, Connector.ofStore s' role = x' at hc hquiet ⊢
  cases hc with
  | error f => exact ⟨rfl, rfl⟩
  | @ok c c' hc =>
    obtain ⟨hreport, ht⟩ := (hu c c' ⟨c, state, []⟩ ⟨c', state, []⟩ hc ⟨hc, rfl, rfl⟩).elim hquiet
    exact ⟨hreport, ht.sent⟩

/-- Whatever the command is, its report and its messages are the same if the server does not ask for
the password. -/
theorem alike_perform {file : String} {state : σ} (h : s.Alike s') (hw : w'.server = w.server)
    (hs : store w file = .ok s) (hs' : store w' file = .ok s') (command : Command)
    (hquiet : ∀ q ∈ (perform w state file command).sent, q.isPassword = false) :
    (perform w state file command).report = (perform w' state file command).report ∧
    (perform w state file command).sent = (perform w' state file command).sent := by
  cases command with
  | roles asJson =>
    unfold perform roles
    rw [hs, hs']
    exact ⟨congrArg Report.line (rolesText_eq_of_alike h asJson), rfl⟩
  | ping role =>
    exact alike_withConnector h hs hs' (fun _ _ _ _ hc ht => alike_ping hw hc ht) hquiet
  | query role sql pairs all =>
    unfold perform at hquiet ⊢
    dsimp only at hquiet ⊢
    cases hp : Pairs.read pairs with
    | error f => exact ⟨rfl, rfl⟩
    | ok params =>
      rw [hp] at hquiet
      exact alike_withConnector h hs hs' (fun _ _ _ _ _ ht => alike_query hw sql params all ht)
        hquiet

end Commands

/-- Runs of one command line print the same if the files that they read give stores that are alike,
and the server does not ask for the password. -/
theorem run_eq_of_alike (h : s.Alike s') (hw : w'.server = w.server) {state : σ}
    {args : List String} (hstore : ∀ i, Invocation.ofArguments args = .ok i →
      store w i.file = .ok s ∧ store w' i.file = .ok s')
    (hquiet : ∀ q ∈ (run w state args).2, q.isPassword = false) :
    run w state args = run w' state args := by
  unfold run at hquiet ⊢
  cases hi : Invocation.ofArguments args with
  | error stop => rfl
  | ok i =>
    rw [hi] at hquiet
    obtain ⟨hs, hs'⟩ := hstore i hi
    obtain ⟨hreport, hsent⟩ := alike_perform h hw hs hs' i.command hquiet
    dsimp only
    rw [hreport, hsent]

end CommandLine

/-- Passwords do not show. Two stores that differ in passwords only have the same shown form, the
same list of roles and the same summaries; the same fault if one of them cannot be used, for a role
or as a whole; and connectors that look the same in any two states, as long as both are connected or
neither is, which they are after the same calls if the server does not ask for the password. The
program prints the same for both, whatever its arguments, unless the server asks for the password:
then, and only then, a message with it is sent. -/
theorem Store.passwords_hidden (h : s.Alike s') :
    (∀ role, (s.get? role).map Profile.debug = (s'.get? role).map Profile.debug ∧
      (s.get? role).map Profile.summary = (s'.get? role).map Profile.summary) ∧
    s.debug = s'.debug ∧
    (∀ asJson, rolesText asJson s = rolesText asJson s') ∧
    s.validate = s'.validate ∧
    (∀ role, SameUpTo Connector.Alike (Connector.ofStore s role) (Connector.ofStore s' role)) ∧
    (∀ role c c', Connector.ofStore s role = .ok c → Connector.ofStore s' role = .ok c' →
      (∀ {σ σ' : Type} (srv : Server σ) (srv' : Server σ') st st' ds ds' t t',
        (Session.start c st).serve srv ds = t → (Session.start c' st').serve srv' ds' = t' →
        t.connector.isConnected = t'.connector.isConnected →
        t.connector.debug = t'.connector.debug) ∧
      ∀ {σ : Type} (srv : Server σ) st ds t t',
        (Session.start c st).serve srv ds = t → (Session.start c' st).serve srv ds = t' →
        (∀ q ∈ t.sent, q.isPassword = false) → t.connector.debug = t'.connector.debug) ∧
    ∀ {σ : Type} (w w' : Surroundings σ) (state : σ) (args : List String),
      w'.server = w.server →
      (∀ i, Invocation.ofArguments args = .ok i →
        CommandLine.store w i.file = .ok s ∧ CommandLine.store w' i.file = .ok s') →
      (∀ q ∈ (CommandLine.run w state args).2, q.isPassword = false) →
      CommandLine.run w state args = CommandLine.run w' state args := by
  refine ⟨?_, h.debug_eq, rolesText_eq_of_alike h, h.validate_eq, Connector.alike_ofStore h, ?_, ?_⟩
  · intro role
    exact ⟨h.map_get?_eq (fun _ _ hp => hp.debug_eq) role,
      h.map_get?_eq (fun _ _ hp => hp.summary_eq) role⟩
  · intro role c c' hc hc'
    -- the connectors come of the same role, so they are alike up to the password
    have halike : c.Alike c' := by
      have := Connector.alike_ofStore h role
      rw [hc, hc'] at this
      cases this with
      | ok h => exact h
    refine ⟨?_, ?_⟩
    · rintro σ σ' srv srv' st st' ds ds' t t' rfl rfl hconnected
      obtain ⟨-, hrole, hprofile⟩ := Session.sound_of_ofStore hc srv st ds
      obtain ⟨-, hrole', hprofile'⟩ := Session.sound_of_ofStore hc' srv' st' ds'
      refine Connector.debug_eq_of_alike (hrole.trans hrole'.symm) ?_ hconnected
      rw [hprofile, hprofile']
      exact halike.profile
    · rintro σ srv st ds t t' rfl rfl hquiet
      have hs : (Session.start c st).Alike (Session.start c' st) := ⟨halike, rfl, rfl⟩
      obtain ⟨-, ht⟩ := (Session.alike_serve srv ds hs).elim hquiet
      refine Connector.debug_eq_of_alike ht.connector.role ht.connector.profile ?_
      exact ht.connector.isConnected
  · intro σ w w' state args hw hstore hquiet
    exact run_eq_of_alike h hw hstore hquiet

/-- A store of one role, with a password. -/
def Store.singleWith (password : String) : Store :=
  Keyed.ofList [("r", ⟨"db", "u", password, "h", "5432"⟩)]

/-- A text that gives this store, and a server that lets anyone in. -/
def CommandLine.Surroundings.singleWith (password : String) : Surroundings (Option Script) where
  files _ := .ok ("\x7b\"r\": \x7b\"name\": \"db\", \"user\": \"u\", \"password\": \"" ++
    password ++ "\", \"host\": \"h\", \"port\": 5432\x7d\x7d")
  environment := ⟨∅, none⟩
  server := Script.server

/-- A detailed run for either of two passwords, the second of which has a quote and a semicolon. -/
theorem Store.passwords_hidden_ping : (singleWith "p").Alike (singleWith "'; q") ∧
    CommandLine.store (.singleWith "p") "f.json" = .ok (singleWith "p") ∧
    CommandLine.store (.singleWith "'; q") "f.json" = .ok (singleWith "'; q") ∧
    CommandLine.run (.singleWith "p") (some .quiet) ["-f", "f.json", "-v", "ping", "-r", "r"] =
      CommandLine.run (.singleWith "'; q") (some .quiet) ["-f", "f.json", "-v", "ping", "-r", "r"] ∧
    (CommandLine.run (.singleWith "p") (some .quiet) ["-f", "f.json", "-v", "ping", "-r", "r"]).1 =
      ⟨0, "ok: u@h:5432/db\n", ""⟩ := by
  have halike : (singleWith "p").Alike (singleWith "'; q") :=
    .cons ⟨rfl, rfl, rfl, rfl, rfl⟩ .nil
  have hloads : ∀ password, (CommandLine.store (.singleWith password) "f.json").toOption.map
      Keyed.entries = some (singleWith password).entries →
      CommandLine.store (.singleWith password) "f.json" = .ok (singleWith password) := by
    intro password h
    obtain ⟨store, hstore, hentries⟩ := Option.map_eq_some_iff.1 h
    rw [Keyed.ext_entries hentries] at hstore
    exact toOption_eq_some_iff.1 hstore
  have hs := hloads "p" (by decide +kernel)
  have hs' := hloads "'; q" (by decide +kernel)
  have harguments : (Invocation.ofArguments ["-f", "f.json", "-v", "ping", "-r", "r"]).toOption.map
      Invocation.file = some "f.json" := by decide +kernel
  obtain ⟨-, -, -, -, -, -, hrun⟩ := passwords_hidden halike
  refine ⟨halike, hs, hs', hrun _ _ _ _ rfl ?_ (by decide +kernel), by decide +kernel⟩
  intro i hi
  rw [hi] at harguments
  have hfile : i.file = "f.json" := Option.some.inj harguments
  rw [hfile]
  exact ⟨hs, hs'⟩

end PgRole
