import PgRole.Proofs.Connector.Lifetime

/-!
# Errors of arguments

A call fails with an error of an argument in two places only: before anything is sent, where there
is no statement, and after a description, where the values do not convert to it. Everything else is
`Blameless`: however it fails, the arguments are not at fault. So an error of an argument is
followed back through a call to where the values are converted (`Blames`).

* `Command.run_badArgument`: such an error executes nothing.
-/

namespace PgRole

open Sql

variable {σ α β γ : Type} {srv : Server σ} {st : σ}

namespace Call

/-- A call never fails with an error of an argument. -/
def Blameless (x : Call σ α) : Prop :=
  ∀ s e, (x.runOn s).1 = .error (.error e) → e.kind ≠ .invalidArgument

/-- Where a call fails with an error of an argument, another does so, and leaves the same. -/
def Blames (y : Call σ β) (x : Call σ α) : Prop :=
  ∀ s e s', x.runOn s = (.error (.error e), s') → e.kind = .invalidArgument →
    y.runOn s = (.error (.error e), s')

/-! ## What is blameless -/

namespace Blameless

theorem ret (a : α) : Blameless (pure a : Call σ α) := by
  intro s e h
  cases h

/-- A step and what follows it, if neither fails with an error of an argument. -/
theorem bind {x : Call σ α} {f : α → Call σ β} (hx : x.Blameless) (hf : ∀ a, (f a).Blameless) :
    (x >>= f).Blameless := by
  intro s e h
  rw [runOn_bind] at h
  cases hr : x.runOn s with
  | mk r s₁ =>
    rw [hr] at h
    cases r with
    | ok a => exact hf a s₁ e h
    | error e' =>
      cases h
      exact hx s e (congrArg Prod.fst hr)

theorem map {x : Call σ α} (f : α → β) (hx : x.Blameless) : (f <$> x).Blameless := by
  rw [map_eq_pure_bind]
  exact hx.bind fun a => ret (f a)

theorem get : Blameless (get : Call σ (Session σ)) := by
  intro s e h
  cases h

theorem failWith {e : Error} (he : e.kind ≠ .invalidArgument) :
    Blameless (failWith e : Call σ α) := by
  rintro s _ ⟨⟩
  exact he

theorem panic : Blameless (throw .panic : Call σ α) := by
  intro s e h
  cases h

theorem ofAttempt {r : Attempt Error α}
    (h : ∀ e, r = .error (.error e) → e.kind ≠ .invalidArgument) :
    Blameless (ofAttempt r : Call σ α) := fun _ e he => h e he

theorem exchange (q : Request) (answer : σ → α × σ) : Blameless (exchange q answer) := by
  intro s e h
  cases h

theorem setConnected (b : Bool) : Blameless (setConnected b : Call σ Unit) := by
  intro s e h
  cases h

/-- The failure of an exchange is the fault of the connection or of the query. -/
theorem fail (f : Failure) : Blameless (fail f : Call σ α) := by
  unfold Call.fail
  by_cases hf : f.isBreaking
  · rw [if_pos hf]
    exact (setConnected false).bind fun _ => failWith (by simp [Error.connection])
  · rw [if_neg hf]
    exact failWith (by simp [Error.query])

theorem orFail (a : Answer α) : Blameless (orFail a : Call σ α) := by
  rcases a with (f | _) | a
  · exact fail f
  · exact panic
  · exact ret a

theorem handshake (p : Profile) (port : Nat) : Blameless (handshake srv p port) := by
  refine (exchange _ _).bind fun a => ?_
  cases a with
  | error f => exact ret _
  | ok =>
    refine (exchange _ _).bind fun g => ?_
    cases g with
    | passwordDue => exact exchange _ _
    | _ => exact ret _

/-- Opening a connection is not the fault of an argument, not even if the port is none. -/
theorem connect : Blameless (connect srv) := by
  refine get.bind fun s => ?_
  dsimp only
  split_ifs
  · exact ret ()
  · cases s.connector.profile.portNumber? with
    | none => exact failWith (by simp [Error.configuration])
    | some port =>
      refine (handshake _ port).bind fun a => ?_
      rcases a with (f | _) | ⟨⟨⟩⟩
      · exact failWith (by simp [Error.connection])
      · exact panic
      · exact setConnected true

theorem ask (q : Request) (answer : σ → Answer α × σ) : Blameless (ask srv q answer) :=
  connect.bind fun _ => (exchange _ _).bind orFail

end Blameless

/-! ## Where an error of an argument comes from -/

namespace Blames

theorem refl (x : Call σ α) : Blames x x := fun _ _ _ h _ => h

theorem of_blameless {x : Call σ α} (y : Call σ β) (hx : x.Blameless) : Blames y x :=
  fun s e _ h he => absurd he (hx s e (congrArg Prod.fst h))

/-- What comes after a step is not what fails. -/
theorem bind {y : Call σ β} {x : Call σ α} {f : α → Call σ γ} (hx : Blames y x)
    (hf : ∀ a, (f a).Blameless) : Blames y (x >>= f) := by
  intro s e s' h he
  rw [runOn_bind] at h
  cases hr : x.runOn s with
  | mk r s₁ =>
    rw [hr] at h
    cases r with
    | ok a => exact absurd he (hf a s₁ e (congrArg Prod.fst h))
    | error e' =>
      cases h
      exact hx s e s' hr he

theorem map {y : Call σ β} {x : Call σ α} (f : α → γ) (hx : Blames y x) : Blames y (f <$> x) := by
  rw [map_eq_pure_bind]
  exact hx.bind fun a => .ret (f a)

end Blames

variable (b : Bound)

theorem blames_run (limit : Nat) : Blames (convert srv b) (run srv b limit) := by
  refine (Blames.refl _).bind fun params => (Blameless.ask _ _).bind fun d => ?_
  exact (Blameless.exchange _ _).bind fun a => (Blameless.orFail a).bind fun r => .ret (d, r)

/-- Only converting the values can be the fault of an argument in fetching one row. -/
theorem blames_firstRow : Blames (convert srv b) (firstRow srv b) := by
  refine (blames_run b 1).bind fun (d, r) => ?_
  cases hr : r.rows with
  | nil =>
    dsimp only
    rw [hr]
    exact .ret none
  | cons row rows =>
    dsimp only
    rw [hr]
    refine Blameless.map _ (.ofAttempt fun e he => ?_)
    rw [Postgres.Row.kind_of_record he]
    decide

/-- So it is in fetching all rows. -/
theorem blames_allRows : Blames (convert srv b) (allRows srv b) := by
  refine (blames_run b 0).bind fun (d, r) => ?_
  have hresult (d : Description) :
      Blameless (ofAttempt (Postgres.Row.rowSet d.columns r.rows) : Call σ RowSet) := by
    refine .ofAttempt fun e he => ?_
    rw [Postgres.Row.kind_of_rowSet he]
    decide
  dsimp only
  by_cases hr : r.rows.isEmpty
  · rw [if_pos hr]
    exact (Blameless.ask _ _).bind hresult
  · rw [if_neg hr]
    exact (Blameless.ret d).bind hresult

/-- And in writing, where a statement without values has none to convert. -/
theorem blames_write : Blames (convert srv b) (write srv b) := by
  unfold write
  by_cases hb : b.args.isEmpty
  · rw [if_pos hb]
    exact .of_blameless _ ((Blameless.ask _ _).bind fun tags => .ret _)
  · rw [if_neg hb]
    exact (blames_run b 0).bind fun _ => .ret _

/-- A message that was answered is the last that was sent, on an open connection. -/
theorem of_ask_eq_ok {s s' : Session σ} {q : Request} {answer : σ → Answer α × σ} {a : α}
    (hs : s.Sound srv st) (hr : ∀ st, srv.respond q st = (answer st).map error? id)
    (h : (ask srv q answer).runOn s = (.ok a, s')) :
    ∃ qs, s'.sent = s.sent ++ (qs ++ [q]) ∧ (∀ q' ∈ qs, q'.isExecution = false) ∧
      s'.connector.isConnected ∧ (answer (srv.after s.server qs)).1 = .ok a := by
  obtain ⟨⟨qs, hcourse⟩, hopen⟩ := triple_connect False (fun _ => True) s hs False.elim
  unfold ask at h
  rw [runOn_bind] at h
  rcases hr₁ : (connect srv).runOn s with ⟨e | ⟨⟨⟩⟩, s₁⟩
  · rw [hr₁] at h
    cases h
  · rw [hr₁] at h hcourse hopen
    dsimp only at h
    rw [runOn_bind, runOn_exchange_told s₁ fun _ => by rw [hr]; rfl] at h
    dsimp only at h
    rcases ha : (answer s₁.server).1 with x | a'
    · obtain ⟨y, b, hrun, -⟩ := exists_runOn_orFail (α := α) (s₁.told srv [q]) (hopen () rfl).1 x
      rw [ha, hrun] at h
      cases h
    · rw [ha] at h
      cases h
      rw [hcourse.server_eq hs] at ha
      refine ⟨qs, ?_, ?_, (hopen () rfl).1, ha⟩
      · show s₁.sent ++ [q] = _
        rw [hcourse.sent, List.append_assoc]
      · obtain ⟨done, rest, hnil, -, hdone⟩ := hcourse.executed
        rw [(List.append_eq_nil_iff.1 hnil.symm).1, List.forall₂_nil_left_iff] at hdone
        simpa using hdone

/-- Where the values of a statement do not convert, the server was just asked to describe it, and
nothing was executed. -/
theorem convert_eq_error {s s' : Session σ} {e : Error} (hs : s.Sound srv st)
    (h : (convert srv b).runOn s = (.error (.error e), s')) (he : e.kind = .invalidArgument) :
    ∃ qs d, s'.sent = s.sent ++ (qs ++ [.describe b.sql]) ∧
      (∀ q ∈ qs, q.isExecution = false) ∧ s'.connector.isConnected ∧
      (srv.describe b.sql (srv.after s.server qs)).1 = .ok d ∧
      Postgres.Param.all d.params b.args = .error e := by
  unfold convert at h
  by_cases hb : b.args.isEmpty
  · rw [List.isEmpty_iff.1 hb] at h
    cases h
  · dsimp only at h
    rw [if_neg hb, map_eq_pure_bind, bind_assoc, runOn_bind] at h
    rcases hr : (describe srv b.sql).runOn s with ⟨a | d, s₁⟩
    · rw [hr] at h
      cases h
      exact absurd he (Blameless.ask _ _ s e (congrArg Prod.fst hr))
    · rw [hr] at h
      obtain ⟨hall, rfl⟩ := Prod.mk.inj h
      obtain ⟨qs, hsent, hruns, hopen, hd⟩ := of_ask_eq_ok hs (fun _ => rfl) hr
      obtain ⟨e', hall, he'⟩ := mapError_eq_error_iff.1 hall
      cases he'
      exact ⟨qs, d, hsent, hruns, hopen, hd, hall⟩

end Call

/-! ## Calls of a single statement -/

open Call

/-- A call of a single statement has it first; what comes then fails with an error of an argument
only where the values do not convert. -/
theorem Command.run_eq_bind {d : Command} {p : Except Error Bound} (hp : d.statement? = some p)
    (srv : Server σ) : ∃ f : Bound → Call σ Response, d.run srv = ofResult p >>= f ∧
      ∀ b, Blames (convert srv b) (f b) := by
  cases d with
  | fetchOne sql params =>
    cases hp
    exact ⟨_, map_bind .., fun b => (blames_firstRow b).map _⟩
  | fetchAll sql params =>
    cases hp
    exact ⟨_, map_bind .., fun b => (blames_allRows b).map _⟩
  | upsert sql params =>
    cases hp
    exact ⟨_, map_bind .., fun b => (blames_write b).map _⟩
  | execute s =>
    cases hp
    refine ⟨_, map_bind .., fun b => Blames.map _ ?_⟩
    have hwrite : Blames (convert srv b) (Outcome.affected <$> write srv b) :=
      (blames_write b).map _
    cases s with
    | select t f ws j m =>
      cases m with
      | one => exact (blames_firstRow b).map _
      | all => exact (blames_allRows b).map _
    | _ => exact hwrite
  | rowExists table conditions join =>
    cases hp
    refine ⟨_, map_bind .., fun b => Blames.map _ ?_⟩
    exact (blames_firstRow b).bind fun r => .ret _
  | executeMany ss => cases hp
  | ping => cases hp

/-- A call of a single statement that fails with an error of an argument executes nothing. Either
there is no statement: then nothing is sent and nothing changes. Or the last message asks the server
to describe the statement, the connection is open, and the error names the first value that does not
convert to the type described for it. -/
theorem Command.run_badArgument {store : Store} {role : String} {c : Connector}
    (h : Connector.ofStore store role = .ok c) (srv : Server σ) (st : σ) (ds : List Command)
    (d : Command) {p : Except Error Bound} (hp : d.statement? = some p) {s s' : Session σ}
    {e : Error} (hs : (Session.start c st).serve srv ds = s)
    (hr : (d.run srv).runOn s = (.error (.error e), s')) (he : e.kind = .invalidArgument) :
    ∃ qs, s'.sent = s.sent ++ qs ∧ (∀ q ∈ qs, q.isExecution = false) ∧
      (p = .error e ∧ s' = s ∨
        ∃ b before described i j f, p = .ok b ∧ s'.connector.isConnected ∧
          qs = before ++ [.describe b.sql] ∧
          (srv.describe b.sql (srv.after s.server before)).1 = .ok described ∧
          b.args[i]? = some j ∧
          Postgres.Param.ofJson described.params[i]? j = .error f ∧
          e = Postgres.Param.error (i + 1) f ∧
          ∀ k < i, ∀ j, b.args[k]? = some j →
            ∃ v, Postgres.Param.ofJson described.params[k]? j = .ok v) := by
  obtain ⟨hsound, -, -⟩ := Session.sound_of_ofStore h srv st ds
  rw [hs] at hsound
  obtain ⟨f, hf, hblames⟩ := run_eq_bind hp srv
  rw [hf] at hr
  cases p with
  -- what cannot be rendered has sent nothing
  | error e' =>
    cases hr
    exact ⟨[], (List.append_nil _).symm, by simp, .inl ⟨rfl, rfl⟩⟩
  | ok b =>
    -- an error of an argument comes from the conversion, and that from its first argument at fault
    obtain ⟨qs, described, hsent, hruns, hopen, hdescribed, hall⟩ :=
      convert_eq_error b hsound (hblames b s e s' hr he) he
    obtain ⟨i, j, fault, hj, hfault, rfl, hbefore⟩ := Postgres.Param.first_of_allFrom hall
    refine ⟨_, hsent, ?_, .inr ⟨b, qs, described, i, j, fault, rfl, hopen, rfl, hdescribed, hj,
      hfault, ?_, hbefore⟩⟩
    · intro q hq
      rcases List.mem_append.1 hq with hq | hq
      · exact hruns q hq
      · rw [List.mem_singleton.1 hq]
        rfl
    · rw [Nat.add_comm]

/-- A server that lets anyone in and describes two parameters as integers. -/
def Script.describingIntegers : Script :=
  (start "h" .anyone).withLines
    [{ Line.silent with description := ⟨[.plain "INT4", .plain "INT4"], []⟩ }]

/-- A query with a value that is no integer. -/
def Command.misfit : Command :=
  .fetchAll "SELECT %(a)s, %(b)s" (some (Keyed.ofList [("a", .str "1"), ("b", .str "x")]))

/-- The error of it. -/
def Error.misfit : Error := .invalidArgument "parameter $2: \"x\" is not an integer"

/-- The second value does not convert; the message before the error asked for a description and was
answered. -/
theorem Command.run_badArgument_second : ∃ s s' qs, ∃ b : Bound, ∃ before described,
    (Session.start .single (some .describingIntegers)).serve Script.server [.ping] = s ∧
    (misfit.run Script.server).runOn s = (.error (.error .misfit), s') ∧
    s'.sent = s.sent ++ qs ∧ (∀ q ∈ qs, q.isExecution = false) ∧ s'.connector.isConnected ∧
    qs = before ++ [.describe b.sql] ∧
    (Script.server.describe b.sql (Script.server.after s.server before)).1 = .ok described := by
  have hstore : Connector.ofStore .single "r" = .ok .single := rfl
  let s := (Session.start .single (some .describingIntegers)).serve Script.server [.ping]
  have herror : error? ((misfit.run Script.server).runOn s).1 = some (.error .misfit) := by
    decide +kernel
  obtain ⟨s', hr⟩ : ∃ s', (misfit.run Script.server).runOn s = (.error (.error .misfit), s') :=
    ⟨_, Prod.ext (error?_eq_some_iff.1 herror) rfl⟩
  obtain ⟨qs, hsent, hruns,
    ⟨hp, -⟩ | ⟨b, before, described, -, -, -, -, hopen, hqs, hdescribed, -⟩⟩ :=
    run_badArgument hstore Script.server _ [.ping] misfit rfl rfl hr rfl
  · have hnone : error? ((compile "SELECT %(a)s, %(b)s"
        (some (Keyed.ofList [("a", .str "1"), ("b", .str "x")]))).mapError fun f => f.error) =
        none := by decide +kernel
    rw [hp] at hnone
    cases hnone
  · exact ⟨s, s', qs, b, before, described, rfl, hr, hsent, hruns, hopen, hqs, hdescribed⟩

end PgRole
