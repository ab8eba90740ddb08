import PgRole.Proofs.Connector.Lifetime

/-!
# Statements in sequence

A list of statements is worked off from the front: two lists in a row are the one and then the other
(`Connector.executeMany_append`), from any session and with any server.

What a call says about statements at all is followed by `Call.Sends`: every message it sends is of a
kind. Where a list fails, the statements before the failing one were executed, each once and in
order, and no message is about a statement after it.

* `Connector.executeMany_sequence`: what a list of statements does, whether it fails or not.
-/

namespace PgRole

open Sql

variable {σ α β : Type} {srv : Server σ} {s s' : Session σ}

/-- The text of the statement that a message is about. -/
def Request.statement? : Request → Option String
  | describe sql | prepare sql | execute sql _ _ | script sql => some sql
  | dial .. | login _ | password _ | ping | terminate => none

/-- A message is about no other statement than one with this text. -/
def Request.IsAbout (sql : String) (q : Request) : Prop := ∀ text ∈ q.statement?, text = sql

/-- An outcome of the sort that a statement has: one row or all, as the selection says, and a number
for the rest. -/
inductive Statement.Brings : Statement → Outcome → Prop where
  | row {t : String} {f : Fields} {ws : List Condition} {j : Join} (r : Option Record) :
    Brings (.select t f ws j .one) (.row r)
  | rows {t : String} {f : Fields} {ws : List Condition} {j : Join} (r : RowSet) :
    Brings (.select t f ws j .all) (.rows r)
  | inserted {t : String} {sets : List Assignment} (n : UInt64) :
    Brings (.insert t sets) (.affected n)
  | updated {t : String} {sets : List Assignment} {ws : List Condition} {j : Join} (n : UInt64) :
    Brings (.update t sets ws j) (.affected n)
  | deleted {t : String} {ws : List Condition} {j : Join} (n : UInt64) :
    Brings (.delete t ws j) (.affected n)

namespace Call

theorem runOn_map (f : α → β) (x : Call σ α) (s : Session σ) :
    (f <$> x).runOn s = ((x.runOn s).1.map f, (x.runOn s).2) := by
  rw [map_eq_pure_bind, runOn_bind]
  rcases x.runOn s with ⟨_ | _, _⟩ <;> rfl

/-! ## What a call sends -/

/-- Whatever a call does, the messages it sends are of a kind. -/
def Sends (P : Request → Prop) (x : Call σ α) : Prop :=
  ∀ s, ∃ qs, (x.runOn s).2.sent = s.sent ++ qs ∧ ∀ q ∈ qs, P q

namespace Sends

variable {P : Request → Prop}

/-- A step that leaves the messages as they are. -/
theorem of_sent_eq {x : Call σ α} (h : ∀ s, (x.runOn s).2.sent = s.sent) : x.Sends P :=
  fun s => ⟨[], by simp [h], by simp⟩

theorem ret (a : α) : Sends P (pure a : Call σ α) := of_sent_eq fun _ => rfl

/-- A step and what follows it send what either does. -/
theorem bind {x : Call σ α} {f : α → Call σ β} (hx : x.Sends P) (hf : ∀ a, (f a).Sends P) :
    (x >>= f).Sends P := by
  intro s
  obtain ⟨qs, hsent, hqs⟩ := hx s
  rw [runOn_bind]
  rcases hr : x.runOn s with ⟨e | a, s₁⟩
  · rw [hr] at hsent
    exact ⟨qs, hsent, hqs⟩
  · rw [hr] at hsent
    obtain ⟨qs', hsent', hqs'⟩ := hf a s₁
    refine ⟨qs ++ qs', ?_, fun q hq => (List.mem_append.1 hq).elim (hqs q) (hqs' q)⟩
    show ((f a).runOn s₁).2.sent = _
    rw [hsent', hsent, List.append_assoc]

theorem map {x : Call σ α} (f : α → β) (hx : x.Sends P) : (f <$> x).Sends P := by
  intro s
  rw [runOn_map]
  exact hx s

theorem ofAttempt (r : Attempt Error α) : Sends P (ofAttempt r : Call σ α) :=
  of_sent_eq fun _ => rfl

theorem exchange {q : Request} (answer : σ → α × σ) (hq : P q) : Sends P (exchange q answer) :=
  fun _ => ⟨[q], rfl, by simpa using hq⟩

theorem orFail (a : Answer α) : Sends P (orFail a : Call σ α) := by
  refine of_sent_eq fun s => ?_
  rcases a with (f | _) | a
  · show ((fail f : Call σ α).runOn s).2.sent = s.sent
    unfold fail
    split_ifs <;> rfl
  · rfl
  · rfl

variable {sql : String}

/-- Opening a connection is about no statement. -/
theorem connect : Sends (Request.IsAbout sql) (connect srv) := by
  refine (of_sent_eq fun _ => rfl : Sends _ get).bind fun s => ?_
  dsimp only
  split_ifs
  · exact ret ()
  · cases s.connector.profile.portNumber? with
    | none => exact of_sent_eq fun _ => rfl
    | some port =>
      have hlogin : Sends (Request.IsAbout sql) (handshake srv s.connector.profile port) := by
        refine (exchange _ (by simp [Request.IsAbout, Request.statement?])).bind fun a => ?_
        cases a with
        | error f => exact ret _
        | ok =>
          refine (exchange _ (by simp [Request.IsAbout, Request.statement?])).bind fun g => ?_
          cases g with
          | passwordDue => exact exchange _ (by simp [Request.IsAbout, Request.statement?])
          | _ => exact ret _
      refine hlogin.bind fun a => ?_
      rcases a with (f | _) | ⟨⟨⟩⟩ <;> exact of_sent_eq fun _ => rfl

/-- A message about a statement, and its answer. -/
theorem say {q : Request} (answer : σ → Answer α × σ) (hq : q.statement? = some sql) :
    Sends (Request.IsAbout sql) (Call.exchange q answer >>= Call.orFail) :=
  (exchange _ (by simp [Request.IsAbout, hq])).bind orFail

theorem ask {q : Request} (answer : σ → Answer α × σ) (hq : q.statement? = some sql) :
    Sends (Request.IsAbout sql) (ask srv q answer) := connect.bind fun _ => say answer hq

variable (b : Bound)

/-- Describing, preparing and executing are about the statement. -/
theorem run (limit : Nat) : Sends (Request.IsAbout b.sql) (run srv b limit) := by
  have hconvert : Sends (Request.IsAbout b.sql) (convert srv b) := by
    unfold convert
    dsimp only
    split_ifs
    · exact (ret []).bind fun types => ofAttempt _
    · exact ((ask _ rfl).map _).bind fun types => ofAttempt _
  refine hconvert.bind fun params => (ask _ rfl).bind fun d => ?_
  dsimp only
  rw [← bind_assoc]
  exact (say _ rfl).bind fun r => ret (d, r)

theorem firstRow : Sends (Request.IsAbout b.sql) (firstRow srv b) := by
  refine (run b 1).bind fun (d, r) => ?_
  dsimp only
  cases r.rows with
  | nil => exact ret none
  | cons row rows => exact map _ (ofAttempt _)

theorem allRows : Sends (Request.IsAbout b.sql) (allRows srv b) := by
  refine (run b 0).bind fun (d, r) => ?_
  dsimp only
  split_ifs
  · exact (ask _ rfl).bind fun d => ofAttempt _
  · exact (ret d).bind fun d => ofAttempt _

theorem write : Sends (Request.IsAbout b.sql) (write srv b) := by
  unfold Call.write
  split_ifs
  · exact (ask _ rfl).bind fun tags => ret _
  · exact (run b 0).bind fun _ => ret _

end Sends

end Call

namespace Connector

open Call

/-- A statement is rendered, and then it alone is talked about; its outcome is of its own sort. -/
theorem execute_eq_bind (srv : Server σ) (t : Statement) : ∃ f : Bound → Call σ Outcome,
    execute srv t = ofResult ((render t).mapError fun f => f.error) >>= f ∧
      ∀ b, (f b).Sends (Request.IsAbout b.sql) ∧
        ∀ s o, ((f b).runOn s).1 = .ok o → t.Brings o := by
  have hmap {γ : Type} {x : Call σ γ} {g : γ → Outcome} {s : Session σ} {o : Outcome}
      (h : ((g <$> x).runOn s).1 = .ok o) : ∃ a, g a = o := by
    rw [runOn_map] at h
    obtain ⟨a, -, ha⟩ := map_eq_ok_iff.1 h
    exact ⟨a, ha⟩
  -- the kinds differ in what they bring only; all render first and send messages about that text
  cases t with
  | select t f ws j m =>
    cases m with
    | one =>
      refine ⟨_, rfl, fun b => ⟨(Sends.firstRow b).map _, fun s o h => ?_⟩⟩
      obtain ⟨r, rfl⟩ := hmap h
      exact .row r
    | all =>
      refine ⟨_, rfl, fun b => ⟨(Sends.allRows b).map _, fun s o h => ?_⟩⟩
      obtain ⟨r, rfl⟩ := hmap h
      exact .rows r
  | insert t sets =>
    refine ⟨_, rfl, fun b => ⟨(Sends.write b).map _, fun s o h => ?_⟩⟩
    obtain ⟨n, rfl⟩ := hmap h
    exact .inserted n
  | update t sets ws j =>
    refine ⟨_, rfl, fun b => ⟨(Sends.write b).map _, fun s o h => ?_⟩⟩
    obtain ⟨n, rfl⟩ := hmap h
    exact .updated n
  | delete t ws j =>
    refine ⟨_, rfl, fun b => ⟨(Sends.write b).map _, fun s o h => ?_⟩⟩
    obtain ⟨n, rfl⟩ := hmap h
    exact .deleted n

/-- What comes of a statement is of its sort, and the statement could be rendered. -/
theorem of_execute_eq_ok {t : Statement} {o : Outcome}
    (h : (execute srv t).runOn s = (.ok o, s')) : t.Brings o ∧ ∃ b, render t = .ok b := by
  obtain ⟨f, hf, hb⟩ := execute_eq_bind srv t
  rw [hf, runOn_bind] at h
  cases ht : render t with
  | error e =>
    rw [ht] at h
    cases h
  | ok b =>
    rw [ht] at h
    exact ⟨(hb b).2 s o (congrArg Prod.fst h), b, rfl⟩

/-- A statement sends nothing about another one. -/
theorem sent_execute (srv : Server σ) (t : Statement) (s : Session σ) :
    ∃ qs, ((execute srv t).runOn s).2.sent = s.sent ++ qs ∧
      ∀ q ∈ qs, ∀ sql ∈ q.statement?, ∃ b, render t = .ok b ∧ sql = b.sql := by
  obtain ⟨f, hf, hb⟩ := execute_eq_bind srv t
  rw [hf, runOn_bind]
  cases ht : render t with
  | error e => exact ⟨[], (List.append_nil _).symm, by simp⟩
  | ok b =>
    obtain ⟨qs, hsent, hqs⟩ := (hb b).1 s
    exact ⟨qs, hsent, fun q hq sql hsql => ⟨b, rfl, hqs q hq sql hsql⟩⟩

/-! ## Lists of statements -/

/-- Two lists of statements in a row. -/
theorem executeMany_append (srv : Server σ) (ss ts : List Statement) :
    executeMany srv (ss ++ ts) = do
      let os ← executeMany srv ss
      let os' ← executeMany srv ts
      return os ++ os' := by
  induction ss with
  | nil => simp [executeMany]
  | cons t ss ih => simp [executeMany, ih]

/-- Every statement of a list that succeeds could be rendered, and has an outcome of its sort. -/
theorem of_executeMany_eq_ok {ss : List Statement} {os : List Outcome}
    (h : (executeMany srv ss).runOn s = (.ok os, s')) :
    List.Forall₂ Statement.Brings ss os ∧ ∀ t ∈ ss, ∃ b, render t = .ok b := by
  induction ss generalizing s os with
  | nil =>
    cases h
    exact ⟨.nil, by simp⟩
  | cons t ss ih =>
    rw [executeMany, runOn_bind] at h
    rcases ht : (execute srv t).runOn s with ⟨e | o, s₁⟩
    · rw [ht] at h
      cases h
    · rw [ht] at h
      dsimp only at h
      rw [runOn_bind] at h
      rcases hss : (executeMany srv ss).runOn s₁ with ⟨e | os', s₂⟩
      · rw [hss] at h
        cases h
      · rw [hss] at h
        cases h
        obtain ⟨hbrings, hrender⟩ := of_execute_eq_ok ht
        obtain ⟨hbrings', hrender'⟩ := ih hss
        exact ⟨.cons hbrings hbrings', List.forall_mem_cons.2 ⟨hrender, hrender'⟩⟩

/-- The statements of a list that succeeds are executed in their order, each once. -/
theorem executed_of_executeMany_eq_ok {st : σ} (hs : s.Sound srv st) {ss : List Statement}
    {os : List Outcome} (h : (executeMany srv ss).runOn s = (.ok os, s')) :
    ∃ qs, s'.sent = s.sent ++ qs ∧
      List.Forall₂ (fun t q => ∃ b, render t = .ok b ∧ q.Executes b) ss
        (qs.filter Request.isExecution) := by
  obtain ⟨⟨qs, hcourse⟩, -⟩ := triple_executeMany ss s hs trivial
  rw [h] at hcourse
  refine ⟨qs, hcourse.sent, ?_⟩
  obtain ⟨done, rest, hbs, hrest, hdone⟩ := hcourse.executed
  rw [hrest rfl, List.append_nil] at hbs
  rw [← hbs] at hdone
  have hrendered := (of_executeMany_eq_ok h).2
  -- the course leaves out statements that cannot be rendered; here there are none
  clear h hcourse hbs
  generalize qs.filter Request.isExecution = executions at hdone
  induction ss generalizing executions with
  | nil =>
    cases hdone
    exact .nil
  | cons t ss ih =>
    obtain ⟨⟨b, hb⟩, hrendered⟩ := List.forall_mem_cons.1 hrendered
    rw [List.filterMap_cons_some (by rw [hb]; rfl)] at hdone
    cases hdone with
    | cons hq hdone => exact .cons ⟨b, hb, hq⟩ (ih hrendered _ hdone)

/-- Statements are worked off one after the other. Of two lists in a row the second goes on where
the first ended, if that succeeded, and is not looked at otherwise; a list of one statement is that
statement. Where a list succeeds, every statement was executed once, in their order, and has an
outcome of its sort. Where it fails, one statement does: those before it were executed once, in
their order, and no message is about one after it. -/
theorem executeMany_sequence (srv : Server σ) (s : Session σ) :
    (∀ ss ts, (executeMany srv (ss ++ ts)).runOn s =
      match (executeMany srv ss).runOn s with
      | (.error e, s₁) => (.error e, s₁)
      | (.ok os, s₁) =>
        match (executeMany srv ts).runOn s₁ with
        | (.error e, s₂) => (.error e, s₂)
        | (.ok os', s₂) => (.ok (os ++ os'), s₂)) ∧
    (executeMany srv []).runOn s = (.ok [], s) ∧
    (∀ t, (executeMany srv [t]).runOn s =
      match (execute srv t).runOn s with
      | (.error e, s₁) => (.error e, s₁)
      | (.ok o, s₁) => (.ok [o], s₁)) ∧
    ∀ {store : Store} {role : String} {c : Connector} {st : σ} {ds : List Command},
      Connector.ofStore store role = .ok c → (Session.start c st).serve srv ds = s →
      ∀ ss r s', (executeMany srv ss).runOn s = (r, s') →
        (∀ os, r = .ok os → List.Forall₂ Statement.Brings ss os ∧
          ∃ qs, s'.sent = s.sent ++ qs ∧
            List.Forall₂ (fun t q => ∃ b, render t = .ok b ∧ q.Executes b) ss
              (qs.filter Request.isExecution)) ∧
        (∀ e, r = .error e → ∃ before t after os s₁ qs qs', ss = before ++ t :: after ∧
          (executeMany srv before).runOn s = (.ok os, s₁) ∧
          (execute srv t).runOn s₁ = (.error e, s') ∧
          s₁.sent = s.sent ++ qs ∧
          List.Forall₂ (fun t q => ∃ b, render t = .ok b ∧ q.Executes b) before
            (qs.filter Request.isExecution) ∧
          s'.sent = s₁.sent ++ qs' ∧
          ∀ q ∈ qs', ∀ sql ∈ q.statement?, ∃ b, render t = .ok b ∧ sql = b.sql) := by
  refine ⟨fun ss ts => ?_, rfl, fun t => ?_, ?_⟩
  · -- a list of two parts runs as the parts do, and ends with the first that fails
    rw [executeMany_append, runOn_bind]
    rcases (executeMany srv ss).runOn s with ⟨e | os, s₁⟩
    · rfl
    · dsimp only
      rw [runOn_bind]
      rcases (executeMany srv ts).runOn s₁ with ⟨e | os', s₂⟩ <;> rfl
  · rw [executeMany, runOn_bind]
    rcases (execute srv t).runOn s with ⟨e | o, s₁⟩ <;> rfl
  · intro store role c st ds hc hs ss r s' h
    obtain ⟨hsound, -, -⟩ := Session.sound_of_ofStore hc srv st ds
    rw [hs] at hsound
    -- a value says that all statements were executed; an error, which one it is of
    constructor
    · rintro os rfl
      exact ⟨(of_executeMany_eq_ok h).1, executed_of_executeMany_eq_ok hsound h⟩
    · rintro e rfl
      obtain ⟨before, t, after, os, s₁, rfl, hbefore, ht⟩ := exists_of_executeMany_eq_error h
      obtain ⟨qs, hsent, hexecuted⟩ := executed_of_executeMany_eq_ok hsound hbefore
      obtain ⟨qs', hsent', habout⟩ := sent_execute srv t s₁
      rw [ht] at hsent'
      exact ⟨before, t, after, os, s₁, qs, qs', rfl, hbefore, ht, hsent, hexecuted, hsent', habout⟩

end Connector

/-- A server that lets anyone in and says nothing of its own. -/
def Script.quiet : Script := start "h" .anyone

/-- Three statements, of which the second has nothing to insert. -/
def Statement.unrenderable : List Statement :=
  [.delete "t" [] .and, .insert "u" [], .delete "v" [] .and]

/-- The error of the second. -/
def Error.nothingToInsert : Error := .invalidArgument "insert needs at least one field"

/-- The first statement is executed, the second ends the list with its error, and no message is
about a statement after that. -/
theorem Connector.executeMany_sequence_unrenderable : ∃ s s' os s₁ qs qs',
    (Session.start .single (some .quiet)).serve Script.server [.ping] = s ∧
    (executeMany Script.server Statement.unrenderable).runOn s =
      (.error (.error .nothingToInsert), s') ∧
    (executeMany Script.server [.delete "t" [] .and]).runOn s = (.ok os, s₁) ∧
    (execute Script.server (.insert "u" [])).runOn s₁ = (.error (.error .nothingToInsert), s') ∧
    s₁.sent = s.sent ++ qs ∧ (∃ q b, qs.filter Request.isExecution = [q] ∧
      render (.delete "t" [] .and) = .ok b ∧ q.Executes b) ∧
    s'.sent = s₁.sent ++ qs' ∧ ∀ q ∈ qs', q.statement? = none := by
  have hstore : Connector.ofStore .single "r" = .ok .single := rfl
  let s := (Session.start .single (some .quiet)).serve Script.server [.ping]
  have herror : error? ((executeMany Script.server Statement.unrenderable).runOn s).1 =
      some (.error .nothingToInsert) := by decide +kernel
  have hdelete : error? ((execute Script.server (.delete "t" [] .and)).runOn s).1 = none := by
    decide +kernel
  have hinsert : ∀ b, render (.insert "u" []) ≠ .ok b := by
    intro b h
    cases h
  have hr : (executeMany Script.server Statement.unrenderable).runOn s =
      (.error (.error .nothingToInsert), _) := Prod.ext (error?_eq_some_iff.1 herror) rfl
  obtain ⟨before, t, after, os, s₁, qs, qs', hss, hbefore, ht, hsent, hexecuted, hsent', habout⟩ :=
    ((executeMany_sequence Script.server s).2.2.2 hstore rfl _ _ _ hr).2 _ rfl
  rcases before with _ | ⟨x, _ | ⟨y, before⟩⟩
  · -- the first statement does not fail
    cases hss
    cases hbefore
    rw [ht] at hdelete
    cases hdelete
  · cases hss
    obtain ⟨q, rest, ⟨b, hb, hexecutes⟩, hrest, hcons⟩ := List.forall₂_cons_left_iff.1 hexecuted
    rw [List.forall₂_nil_left_iff.1 hrest] at hcons
    refine ⟨s, _, os, s₁, qs, qs', rfl, hr, hbefore, ht, hsent, ⟨q, b, hcons, hb, hexecutes⟩,
      hsent', fun q hq => ?_⟩
    cases hstatement : q.statement? with
    | none => rfl
    | some sql =>
      obtain ⟨b, hb, -⟩ := habout q hq sql hstatement
      exact absurd hb (hinsert b)
  · -- and the second is not gone past
    obtain ⟨-, hss⟩ := List.cons.inj hss
    obtain ⟨rfl, -⟩ := List.cons.inj hss
    obtain ⟨b, hb⟩ := (of_executeMany_eq_ok hbefore).2 (.insert "u" []) (by simp)
    exact absurd hb (hinsert b)

end PgRole
