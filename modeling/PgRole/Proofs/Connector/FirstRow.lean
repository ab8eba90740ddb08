import PgRole.Proofs.Connector.Sequence

/-!
# One row and all rows

Asking for one row gives the first of the rows that asking for all gives. The two are asked in runs
of their own, with servers that need only say the same: `Server.InStep` is that two servers, in
states that are related, answer alike all that comes before the execution of a statement, and then
bring the same first row where the second brings rows at all. `Call.InStep` follows two calls
through such runs, with one rule a construct; the runs part at the execution (`FirstOf`), and what
comes after it is compared by itself (`Call.firstOf_bind`), up to what comes of the replies
(`OneOfAll`).

* `Connector.fetchOne_eq_first`: where all rows are given, so is the one row, and it is the first;
  and the one row fails only where all do.
-/

namespace PgRole

open Sql

variable {σ τ α β γ : Type}

/-- The same value, with states that are related. -/
def InStep (R : σ → τ → Prop) (x : α × σ) (y : α × τ) : Prop := x.1 = y.1 ∧ R x.2 y.2

/-- What comes for one row, beside what comes for all. Where there are values they are related; all
rows may fail in any case, but panic only where the one does. -/
inductive FirstOf {ε : Type} (R : α → β → Prop) : Attempt ε α → Attempt ε β → Prop where
  | ok {a : α} {b : β} (h : R a b) : FirstOf R (.ok a) (.ok b)
  | failed (x : Attempt ε α) (e : ε) : FirstOf R x (.error (.error e))
  | panic : FirstOf R (.error .panic) (.error .panic)

/-- Replies with the same first row, or without rows. -/
def Reply.SameFirst (one all : Reply) : Prop := one.rows.head? = all.rows.head?

/-- From related states two servers answer alike and stay related up to the execution of a
statement; the first then brings for one row what the second brings for all, up to the first row. -/
structure Server.InStep (R : σ → τ → Prop) (srv : Server σ) (srv' : Server τ) (sql : String) :
    Prop where
  dial : ∀ host port st st', R st st' →
    PgRole.InStep R (srv.dial host port st) (srv'.dial host port st')
  login : ∀ l st st', R st st' → PgRole.InStep R (srv.login l st) (srv'.login l st')
  password : ∀ text st st', R st st' →
    PgRole.InStep R (srv.password text st) (srv'.password text st')
  describe : ∀ st st', R st st' → PgRole.InStep R (srv.describe sql st) (srv'.describe sql st')
  prepare : ∀ st st', R st st' → PgRole.InStep R (srv.prepare sql st) (srv'.prepare sql st')
  execute : ∀ args st st', R st st' →
    FirstOf Reply.SameFirst (srv.execute sql args 1 st).1 (srv'.execute sql args 0 st').1

/-- Sessions of one connector whose servers are in related states. -/
structure Session.Paired (R : σ → τ → Prop) (s : Session σ) (s' : Session τ) : Prop where
  connector : s.connector = s'.connector
  server : R s.server s'.server

namespace Call

/-! ## Runs in step -/

/-- From paired sessions, calls that give the same and leave sessions paired. -/
def InStep (R : σ → τ → Prop) (x : Call σ α) (y : Call τ α) : Prop :=
  ∀ s s', Session.Paired R s s' → PgRole.InStep (Session.Paired R) (x.runOn s) (y.runOn s')

namespace InStep

variable {R : σ → τ → Prop} {srv : Server σ} {srv' : Server τ} {sql : String}

theorem ofAttempt (r : Attempt Error α) : InStep R (ofAttempt r : Call σ α) (ofAttempt r) :=
  fun _ _ hs => ⟨rfl, hs⟩

theorem ret (a : α) : InStep R (pure a : Call σ α) (pure a) := ofAttempt (.ok a)

theorem throw (a : Abort Error) : InStep R (throw a : Call σ α) (throw a) := ofAttempt (.error a)

/-- A step and what follows it stay in step. -/
theorem bind {x : Call σ α} {y : Call τ α} {f : α → Call σ β} {g : α → Call τ β}
    (hx : InStep R x y) (hf : ∀ a, InStep R (f a) (g a)) : InStep R (x >>= f) (y >>= g) := by
  intro s s' hs
  obtain ⟨hr, hs₁⟩ := hx s s' hs
  rw [runOn_bind, runOn_bind]
  generalize x.runOn s = p, y.runOn s' = p' at hr hs₁ ⊢
  obtain ⟨r, s₁⟩ := p
  obtain ⟨r', s₁'⟩ := p'
  cases hr
  cases r with
  | ok a => exact hf a s₁ s₁' hs₁
  | error e => exact ⟨rfl, hs₁⟩

theorem map {x : Call σ α} {y : Call τ α} (f : α → β) (hx : InStep R x y) :
    InStep R (f <$> x) (f <$> y) := by
  rw [map_eq_pure_bind, map_eq_pure_bind]
  exact hx.bind fun a => ret (f a)

/-- What is done with the session depends on the connector. -/
theorem read {f : Session σ → Call σ α} {g : Session τ → Call τ α}
    (hf : ∀ s s', Session.Paired R s s' → InStep R (f s) (g s')) :
    InStep R (get >>= f) (get >>= g) := by
  intro s s' hs
  rw [runOn_bind, runOn_bind]
  exact hf s s' hs s s' hs

/-- A message that is answered alike keeps sessions in step. -/
theorem exchange {q : Request} {answer : σ → α × σ} {answer' : τ → α × τ}
    (h : ∀ st st', R st st' → PgRole.InStep R (answer st) (answer' st')) :
    InStep R (exchange q answer) (exchange q answer') := by
  intro s s' hs
  obtain ⟨ha, hst⟩ := h s.server s'.server hs.server
  rw [runOn_exchange, runOn_exchange, ha]
  exact ⟨rfl, hs.connector, hst⟩

theorem setConnected (b : Bool) :
    InStep R (setConnected b : Call σ Unit) (setConnected b) := by
  intro s s' hs
  rw [runOn_setConnected, runOn_setConnected]
  refine ⟨rfl, ?_, hs.server⟩
  show { s.connector with isConnected := b } = { s'.connector with isConnected := b }
  rw [hs.connector]

theorem orFail (a : Answer α) : InStep R (orFail a : Call σ α) (orFail a) := by
  rcases a with (f | _) | a
  · show InStep R (fail f : Call σ α) (fail f)
    unfold fail
    split_ifs
    · exact (setConnected false).bind fun _ => throw _
    · exact throw _
  · exact throw .panic
  · exact ret a

variable (h : srv.InStep R srv' sql)
include h

theorem handshake (p : Profile) (port : Nat) :
    InStep R (handshake srv p port) (handshake srv' p port) := by
  refine (exchange (h.dial p.host port)).bind fun a => ?_
  cases a with
  | error a => exact ret _
  | ok =>
    refine (exchange (h.login _)).bind fun g => ?_
    cases g with
    | admitted => exact ret _
    | failed a => exact ret _
    | passwordDue => exact exchange (h.password _)

/-- Connecting goes by the connector, which is the same, and by answers that are alike. -/
theorem connect : InStep R (connect srv) (connect srv') := by
  refine read fun s s' hs => ?_
  dsimp only
  rw [hs.connector]
  split_ifs
  · exact ret ()
  · cases s'.connector.profile.portNumber? with
    | none => exact throw _
    | some port =>
      refine (handshake h s'.connector.profile port).bind fun a => ?_
      rcases a with (f | _) | ⟨⟨⟩⟩
      · exact throw _
      · exact throw .panic
      · exact setConnected true

theorem ask {q : Request} {answer : σ → Answer α × σ} {answer' : τ → Answer α × τ}
    (ha : ∀ st st', R st st' → PgRole.InStep R (answer st) (answer' st')) :
    InStep R (ask srv q answer) (ask srv' q answer') :=
  (connect h).bind fun _ => (exchange ha).bind orFail

omit h in
theorem convert {b : Bound} (h : srv.InStep R srv' b.sql) :
    InStep R (convert srv b) (convert srv' b) := by
  unfold Call.convert
  dsimp only
  split_ifs
  · exact (ret []).bind fun types => ofAttempt _
  · exact ((ask h h.describe).map _).bind fun types => ofAttempt _

end InStep

/-! ## Where the runs part -/

variable {R : σ → τ → Prop} {srv : Server σ} {srv' : Server τ}

/-- A failure of the execution is told in the same way whatever it is for. -/
theorem firstOf_orFail {S : α → β → Prop} {x : Answer α} {y : Answer β} (h : FirstOf S x y)
    (s : Session σ) (s' : Session τ) :
    FirstOf S ((orFail x : Call σ α).runOn s).1 ((orFail y : Call τ β).runOn s').1 := by
  cases h with
  | ok h => exact .ok h
  | panic => exact .panic
  | failed x f =>
    obtain ⟨e, he⟩ : ∃ e, ((orFail (.error (.error f)) : Call τ β).runOn s').1 =
        .error (.error e) := by
      show ∃ e, ((fail f : Call τ β).runOn s').1 = _
      unfold fail
      split_ifs
      · exact ⟨_, rfl⟩
      · exact ⟨_, rfl⟩
    rw [he]
    exact .failed _ e

/-- Runs in step, and what follows when they part. -/
theorem InStep.firstOf_bind {S : β → γ → Prop} {x : Call σ α} {y : Call τ α} {f : α → Call σ β}
    {g : α → Call τ γ} (hx : InStep R x y) {s : Session σ} {s' : Session τ} (hs : s.Paired R s')
    (hf : ∀ a s s', Session.Paired R s s' →
      FirstOf S ((f a).runOn s).1 ((g a).runOn s').1) :
    FirstOf S ((x >>= f).runOn s).1 ((y >>= g).runOn s').1 := by
  obtain ⟨hr, hs₁⟩ := hx s s' hs
  rw [runOn_bind, runOn_bind]
  generalize x.runOn s = p, y.runOn s' = p' at hr hs₁ ⊢
  obtain ⟨r, s₁⟩ := p
  obtain ⟨r', s₁'⟩ := p'
  cases hr
  rcases r with (e | _) | a
  · exact .failed _ e
  · exact .panic
  · exact hf a s₁ s₁' hs₁

/-- What follows when the runs have parted. -/
theorem firstOf_bind {S : α → β → Prop} {δ : Type} {T : γ → δ → Prop} {x : Call σ α} {y : Call τ β}
    {f : α → Call σ γ} {g : β → Call τ δ} {s : Session σ} {s' : Session τ}
    (h : FirstOf S (x.runOn s).1 (y.runOn s').1)
    (hf : ∀ a b s s', S a b → FirstOf T ((f a).runOn s).1 ((g b).runOn s').1) :
    FirstOf T ((x >>= f).runOn s).1 ((y >>= g).runOn s').1 := by
  rw [runOn_bind, runOn_bind]
  generalize x.runOn s = p, y.runOn s' = p' at h ⊢
  obtain ⟨r, s₁⟩ := p
  obtain ⟨r', s₁'⟩ := p'
  cases h with
  | ok h => exact hf _ _ s₁ s₁' h
  | failed _ e => exact .failed _ e
  | panic => exact .panic

/-- A statement brings the same description for one row as for all, and the same first row. -/
theorem firstOf_run {b : Bound} (h : srv.InStep R srv' b.sql) {s : Session σ} {s' : Session τ}
    (hs : s.Paired R s') :
    FirstOf (fun one all => one.1 = all.1 ∧ one.2.SameFirst all.2) ((run srv b 1).runOn s).1
      ((run srv' b 0).runOn s').1 := by
  refine (InStep.convert h).firstOf_bind hs fun params s s' hs => ?_
  refine (InStep.ask h h.prepare).firstOf_bind hs fun d s s' hs => ?_
  dsimp only
  rw [← bind_assoc, ← bind_assoc]
  refine firstOf_bind (S := Reply.SameFirst) ?_ fun one all s s' hfirst => .ok ⟨rfl, hfirst⟩
  rw [runOn_bind, runOn_bind]
  exact firstOf_orFail (h.execute _ _ _ hs.server) _ _

end Call

/-! ## What comes of the replies -/

/-- One row agrees with all rows: where these are given it is the first of them, and it fails only
where they do. -/
structure OneOfAll (one : Attempt Error (Option Record)) (all : Attempt Error RowSet) : Prop where
  value : ∀ rs, all = .ok rs → one = .ok rs.first?
  error : ∀ e, one = .error (.error e) → ∃ e', all = .error (.error e')

/-- The first of some rows is shown by itself as among all; a row that does not show keeps all from
being shown. -/
theorem Postgres.Row.oneOfAll (columns : List Column) (row : Row) (rows : List Row) :
    OneOfAll ((record columns row).map some) (rowSet columns (row :: rows)) := by
  constructor
  · intro rs h
    obtain ⟨vs, hvs, hrs⟩ := bind_eq_ok_iff.1 h
    cases hrs
    cases mapM_eq_ok_iff.1 hvs with
    | cons hrow hrows =>
      rw [record, hrow]
      rfl
  · intro e h
    have hrow : values columns row = .error (.error e) :=
      (bind_eq_error_iff.1 (map_eq_error_iff.1 h)).resolve_right fun ⟨_, _, h⟩ => by cases h
    refine ⟨e, ?_⟩
    rw [rowSet, List.mapM_cons, hrow]
    rfl

variable {R : σ → τ → Prop} {srv : Server σ} {srv' : Server τ} {b : Bound} {s : Session σ}
  {s' : Session τ}

namespace Call

/-- One row of a statement agrees with all its rows. -/
theorem oneOfAll_rows (h : srv.InStep R srv' b.sql) (hs : s.Paired R s') :
    OneOfAll ((firstRow srv b).runOn s).1 ((allRows srv' b).runOn s').1 := by
  have hrun := firstOf_run h hs
  unfold firstRow allRows
  rw [runOn_bind, runOn_bind]
  generalize (run srv b 1).runOn s = p, (run srv' b 0).runOn s' = p' at hrun ⊢
  obtain ⟨x, s₁⟩ := p
  obtain ⟨y, s₁'⟩ := p'
  cases hrun with
  | failed _ e => exact ⟨nofun, fun _ _ => ⟨e, rfl⟩⟩
  | panic => exact ⟨nofun, nofun⟩
  | @ok one all hfirst =>
    obtain ⟨d, one⟩ := one
    obtain ⟨d', all⟩ := all
    obtain ⟨rfl, hfirst⟩ := hfirst
    unfold Reply.SameFirst at hfirst
    dsimp only
    cases hrows : all.rows with
    | nil =>
      -- without rows there is nothing to show, and describing again is for the names only
      have hone : one.rows = [] := by simpa [hrows] using hfirst
      rw [hone]
      refine ⟨fun rs h => ?_, nofun⟩
      obtain ⟨d', s₂', -, h⟩ := of_runOn_bind_eq_ok h
      cases h
      rfl
    | cons row rows =>
      obtain ⟨rest, hone⟩ : ∃ rest, one.rows = row :: rest := by
        rw [hrows] at hfirst
        exact List.head?_eq_some_iff.1 hfirst
      rw [hone]
      show OneOfAll ((some <$> ofAttempt (Postgres.Row.record d.columns row)).runOn s₁).1
        (Postgres.Row.rowSet d.columns (row :: rows))
      rw [runOn_map]
      exact Postgres.Row.oneOfAll d.columns row rows

/-- What is read is compiled or rendered first, the same for one row and for all. -/
theorem oneOfAll_of_result {r : Except Error Bound}
    (h : ∀ b, r = .ok b → srv.InStep R srv' b.sql) (hs : s.Paired R s') :
    OneOfAll ((ofResult r >>= firstRow srv).runOn s).1
      ((ofResult r >>= allRows srv').runOn s').1 := by
  cases r with
  | error e => exact ⟨nofun, fun _ _ => ⟨e, rfl⟩⟩
  | ok b => exact oneOfAll_rows (h b rfl) hs

end Call

namespace Connector

open Call

theorem oneOfAll_fetch {sql : String} {params : Option Params}
    (h : ∀ b, Sql.compile sql params = .ok b → srv.InStep R srv' b.sql) (hs : s.Paired R s') :
    OneOfAll ((fetchOne srv sql params).runOn s).1 ((fetchAll srv' sql params).runOn s').1 :=
  oneOfAll_of_result (fun b hb => h b (mapError_eq_ok_iff.1 hb)) hs

/-- A described selection brings one row or all as outcomes. -/
theorem execute_select {t : String} {f : Fields} {ws : List Condition} {j : Join}
    (h : ∀ b, render (.select t f ws j .one) = .ok b → srv.InStep R srv' b.sql)
    (hs : s.Paired R s') : ∃ one all, OneOfAll one all ∧
      ((execute srv (.select t f ws j .one)).runOn s).1 = one.map .row ∧
      ((execute srv' (.select t f ws j .all)).runOn s').1 = all.map .rows := by
  -- the text does not depend on how many rows are fetched
  let r := (render (.select t f ws j .one)).mapError fun f => f.error
  have hagree := oneOfAll_of_result (r := r) (fun b hb => h b (mapError_eq_ok_iff.1 hb)) hs
  have hone : execute srv (.select t f ws j .one) = .row <$> (ofResult r >>= firstRow srv) := by
    rw [map_bind]
    rfl
  have hall : execute srv' (.select t f ws j .all) = .rows <$> (ofResult r >>= allRows srv') := by
    rw [map_bind]
    rfl
  refine ⟨_, _, hagree, ?_, ?_⟩
  · rw [hone, runOn_map]
  · rw [hall, runOn_map]

/-- One row and all rows agree, where the two are asked from the same connector and the servers say
the same. What a query gives for one row is the first of all rows, none if there are none, with the
names of the columns; so it is for a described selection, whose outcome has this row. Where one row
fails so do all, and where one row panics all are not given either. -/
theorem fetchOne_eq_first (hs : s.Paired R s') :
    (∀ sql params, (∀ b, Sql.compile sql params = .ok b → srv.InStep R srv' b.sql) →
      (∀ rs, ((fetchAll srv' sql params).runOn s').1 = .ok rs →
        ((fetchOne srv sql params).runOn s).1 =
          .ok (rs.rows.head?.map fun row => ⟨rs.columns, row⟩)) ∧
      (∀ e, ((fetchOne srv sql params).runOn s).1 = .error (.error e) →
        ∃ e', ((fetchAll srv' sql params).runOn s').1 = .error (.error e')) ∧
      (((fetchOne srv sql params).runOn s).1 = .error .panic →
        ∃ a, ((fetchAll srv' sql params).runOn s').1 = .error a)) ∧
    (∀ t f ws j, (∀ b, render (.select t f ws j .one) = .ok b → srv.InStep R srv' b.sql) →
      (∀ o, ((execute srv' (.select t f ws j .all)).runOn s').1 = .ok o → ∃ rs o', o = .rows rs ∧
        ((execute srv (.select t f ws j .one)).runOn s).1 = .ok o' ∧
        o' = .row (rs.rows.head?.map fun row => ⟨rs.columns, row⟩) ∧
        o.row? = (rs.rows.head?.map fun row => ⟨rs.columns, row⟩) ∧ o'.row? = o.row?) ∧
      (∀ e, ((execute srv (.select t f ws j .one)).runOn s).1 = .error (.error e) →
        ∃ e', ((execute srv' (.select t f ws j .all)).runOn s').1 = .error (.error e')) ∧
      (((execute srv (.select t f ws j .one)).runOn s).1 = .error .panic →
        ∃ a, ((execute srv' (.select t f ws j .all)).runOn s').1 = .error a)) ∧
    ∀ rs : RowSet, rs.first? = rs.rows.head?.map fun row => ⟨rs.columns, row⟩ := by
  have hfirst (rs : RowSet) : rs.first? = rs.rows.head?.map fun row => ⟨rs.columns, row⟩ := by
    simp [RowSet.first?, RowSet.records]
  refine ⟨fun sql params h => ?_, fun t f ws j h => ?_, hfirst⟩
  · have hfetch := oneOfAll_fetch h hs
    refine ⟨fun rs hall => ?_, hfetch.error, fun hpanic => ?_⟩
    · rw [← hfirst]
      exact hfetch.value rs hall
    · cases hall : ((fetchAll srv' sql params).runOn s').1 with
      | error a => exact ⟨a, rfl⟩
      | ok rs => cases hpanic.symm.trans (hfetch.value rs hall)
  · obtain ⟨one, all, hselect, hone, hmany⟩ := execute_select h hs
    rw [hone, hmany]
    refine ⟨fun o ho => ?_, fun e he => ?_, fun hpanic => ?_⟩
    · obtain ⟨rs, hrs, rfl⟩ := map_eq_ok_iff.1 ho
      refine ⟨rs, .row rs.first?, rfl, ?_, ?_, hfirst rs, rfl⟩
      · rw [hselect.value rs hrs]
        rfl
      · rw [hfirst]
    · obtain ⟨e', he'⟩ := hselect.error e (map_eq_error_iff.1 he)
      exact ⟨e', map_eq_error_iff.2 he'⟩
    · cases all with
      | error a => exact ⟨a, rfl⟩
      | ok rs => cases (map_eq_error_iff.1 hpanic).symm.trans (hselect.value rs rfl)

end Connector

/-- A scripted server says the same for one row as for all. -/
theorem Script.inStep (sql : String) : Server.InStep Eq server server sql where
  dial _ _ _ _ h := ⟨by rw [h], by rw [h]⟩
  login _ _ _ h := ⟨by rw [h], by rw [h]⟩
  password _ _ _ h := ⟨by rw [h], by rw [h]⟩
  describe _ _ h := ⟨by rw [h], by rw [h]⟩
  prepare _ _ h := ⟨by rw [h], by rw [h]⟩
  execute args st st' h := by
    subst h
    show FirstOf Reply.SameFirst (server.execute sql args 0 st).1 (server.execute sql args 0 st).1
    rcases (server.execute sql args 0 st).1 with (f | _) | r
    · exact .failed _ f
    · exact .panic
    · exact .ok rfl

/-- A server that lets anyone in and brings two rows. -/
def Script.twoRows : Script :=
  (start "h" .anyone).withLines [{ Line.silent with
    description := ⟨[], [⟨"n", .plain "INT2"⟩]⟩, rows := [[some [0, 7]], [some [0, 8]]] }]

/-- A query and a described selection over two rows: the first is given as the one. -/
theorem Connector.fetchOne_eq_first_twoRows : ∃ rs rs' : RowSet,
    ((fetchAll Script.server "SELECT n FROM t" none).runOn
      (Session.start .single (some .twoRows))).1 = .ok rs ∧
    ((fetchOne Script.server "SELECT n FROM t" none).runOn
      (Session.start .single (some .twoRows))).1 =
        .ok (rs.rows.head?.map fun row => ⟨rs.columns, row⟩) ∧
    rs.rows.length = 2 ∧
    ((execute Script.server (.select "t" .all [] .and .all)).runOn
      (Session.start .single (some .twoRows))).1 = .ok (.rows rs') ∧
    ((execute Script.server (.select "t" .all [] .and .one)).runOn
      (Session.start .single (some .twoRows))).1 =
        .ok (.row (rs'.rows.head?.map fun row => ⟨rs'.columns, row⟩)) ∧
    rs'.rows.length = 2 ∧
    (Outcome.rows rs').row? = rs'.rows.head?.map fun row => ⟨rs'.columns, row⟩ := by
  obtain ⟨hquery, hselect, -⟩ := @fetchOne_eq_first _ _ Eq Script.server Script.server
    (Session.start .single (some .twoRows)) _ ⟨rfl, rfl⟩
  obtain ⟨rs', o', ho, hone, rfl, hrow, -⟩ :=
    (hselect "t" .all [] .and fun b _ => Script.inStep b.sql).1 _ rfl
  cases ho
  refine ⟨_, _, rfl, ?_, rfl, rfl, hone, rfl, hrow⟩
  exact (hquery "SELECT n FROM t" none fun b _ => Script.inStep b.sql).1 _ rfl

end PgRole
