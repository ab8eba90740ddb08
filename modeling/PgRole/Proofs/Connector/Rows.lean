import PgRole.Proofs.Connector.FirstRow
import PgRole.Proofs.Postgres.Cell

/-!
# What all rows of a reply give

A reply with rows is shown as a whole or not at all: with every row and every value in place, or
else the leftmost column of the earliest row that does not show decides whether there is an error,
which names it, or a panic. Where there are no rows, the names come from another description of the
statement.

* `Connector.fetchAll_shows`: the two together, for any reply of a server.
-/

namespace PgRole

open Sql Postgres

variable {σ : Type} {srv : Server σ} {s s₁ : Session σ} {b : Bound} {d : Description}
  {reply : Reply}

namespace Call

/-- Rows are shown under the columns they came with. -/
theorem allRows_of_run (h : (run srv b 0).runOn s = (.ok (d, reply), s₁))
    (hrows : reply.rows ≠ []) :
    ((allRows srv b).runOn s).1 = Row.rowSet d.columns reply.rows := by
  have hempty : reply.rows.isEmpty = false := by simpa using hrows
  unfold allRows
  rw [runOn_bind, h]
  dsimp only
  rw [hempty]
  rfl

/-- Where there are no rows, the columns are described again. -/
theorem allRows_of_run_nil (h : (run srv b 0).runOn s = (.ok (d, reply), s₁))
    (hrows : reply.rows = []) :
    ((allRows srv b).runOn s).1 =
      ((describe srv b.sql).runOn s₁).1.map fun d => ⟨d.columns.map Column.name, []⟩ := by
  unfold allRows
  rw [runOn_bind, h]
  dsimp only
  rw [hrows]
  show ((describe srv b.sql >>= fun d => ofAttempt (Row.rowSet d.columns [])).runOn s₁).1 = _
  rw [runOn_bind]
  rcases (describe srv b.sql).runOn s₁ with ⟨e | d', s₂⟩ <;> rfl

end Call

namespace Connector

open Call

/-- All rows of a query are those of the statement that it is compiled to. -/
theorem fetchAll_eq_allRows {sql : String} {params : Option Params}
    (hb : Sql.compile sql params = .ok b) :
    (fetchAll srv sql params).runOn s = (allRows srv b).runOn s := by
  rw [fetchAll, compile, hb]
  rfl

/-- What comes of any reply. If it has rows, all of them are shown in their order, each with one
value for each column in the order and under the names of the columns; or there is an error that
names the leftmost column of the earliest row that does not show, or a panic there. A reply without
rows has the names of another description, which is asked for. Only for a reason is a cell shown as
null, and none is shown whose type has no mapping, where domains are unwrapped down to one with a
mapping of its own. Only for a reason does a cell panic. -/
theorem fetchAll_shows {sql : String} {params : Option Params}
    (hb : Sql.compile sql params = .ok b) (hrun : (run srv b 0).runOn s = (.ok (d, reply), s₁)) :
    (reply.rows ≠ [] →
      (∃ rs, ((fetchAll srv sql params).runOn s).1 = .ok rs ∧
        Row.AllShow d.columns reply.rows rs ∧
        (∀ r ∈ rs.records, r.columns = d.columns.map Column.name ∧
          r.values.length = r.columns.length) ∧
        ∀ c ∈ d.columns, c.type.unwrap.Mapped) ∨
      (∃ c f, ((fetchAll srv sql params).runOn s).1 =
          .error (.error (.query ("column '" ++ c.name ++ "' " ++ f.message))) ∧
        Row.FirstFails d.columns reply.rows c (.error f)) ∨
      ∃ c, ((fetchAll srv sql params).runOn s).1 = .error .panic ∧
        Row.FirstFails d.columns reply.rows c .panic) ∧
    (reply.rows = [] → ((fetchAll srv sql params).runOn s).1 =
      ((describe srv b.sql).runOn s₁).1.map fun d => ⟨d.columns.map Column.name, []⟩) ∧
    (∀ t cell, Cell.shown t cell = .ok .null → Cell.ReadsNull t cell) ∧
    (∀ t cell, ¬ t.unwrap.Mapped → ∃ f, Cell.shown t cell = .error (.error f)) ∧
    ∀ t cell, Cell.shown t cell = .error .panic →
      cell = none ∨ ∃ bs form, cell = some (some bs) ∧ CellForm.ofType? t = some form ∧
        Cell.Panics t bs form := by
  rw [fetchAll_eq_allRows hb]
  refine ⟨fun hrows => ?_, allRows_of_run_nil hrun, fun t cell => Cell.readsNull_of_shown,
    fun t cell h => ⟨_, Cell.shown_of_not_mapped h cell⟩, fun t cell => Cell.panics_of_shown⟩
  -- with rows, nothing is asked any more: what is left is how they show
  rw [allRows_of_run hrun hrows]
  cases hset : Row.rowSet d.columns reply.rows with
  | ok rs =>
    have hshow := Row.rowSet_eq_ok_iff.1 hset
    refine .inl ⟨rs, rfl, hshow, hshow.records, ?_⟩
    -- a column of an unmapped type would have failed the first row
    obtain ⟨row, rows, hcons⟩ := List.exists_cons_of_ne_nil hrows
    have hvalues := hshow.values
    rw [hcons] at hvalues
    obtain ⟨vs, _, hrow, -, -⟩ := List.forall₂_cons_left_iff.1 hvalues
    exact hrow.mapped
  | error e =>
    obtain ⟨c, a, hfails, rfl⟩ := Row.rowSet_eq_error_iff.1 hset
    cases a with
    | error f => exact .inr (.inl ⟨c, f, rfl, hfails⟩)
    | panic => exact .inr (.inr ⟨c, rfl, hfails⟩)

end Connector

/-- A server that lets anyone in and brings a null in a column of a type without a mapping. -/
def Script.unmapped : Script :=
  (start "h" .anyone).withLines [{ Line.silent with
    description := ⟨[], [⟨"n", .plain "INT2"⟩, ⟨"p", .domain "place" (.plain "POINT")⟩]⟩
    rows := [[some [0, 7], none]] }]

/-- The second column has a domain over a type without a mapping, so that not even its null is
shown. -/
theorem Connector.fetchAll_shows_unmapped : ∃ b d reply s₁ c f,
    Sql.compile "SELECT n, p FROM t" none = .ok b ∧
    (Call.run Script.server b 0).runOn (Session.start .single (some .unmapped)) =
      (.ok (d, reply), s₁) ∧
    reply.rows ≠ [] ∧
    ((fetchAll Script.server "SELECT n, p FROM t" none).runOn
      (Session.start .single (some .unmapped))).1 =
        .error (.error (.query "column 'p' has unsupported type POINT; cast it in the query")) ∧
    "column '" ++ c.name ++ "' " ++ f.message =
      "column 'p' has unsupported type POINT; cast it in the query" ∧
    Row.FirstFails d.columns reply.rows c (.error f) := by
  have hb : Sql.compile "SELECT n, p FROM t" none = .ok ⟨"SELECT n, p FROM t", []⟩ := rfl
  obtain ⟨d, reply, s₁, hrun, hrows⟩ : ∃ d reply s₁,
      (Call.run Script.server ⟨"SELECT n, p FROM t", []⟩ 0).runOn
        (Session.start .single (some .unmapped)) = (.ok (d, reply), s₁) ∧
      reply.rows ≠ [] := ⟨_, _, _, rfl, List.cons_ne_nil _ _⟩
  have hend : ((fetchAll Script.server "SELECT n, p FROM t" none).runOn
      (Session.start .single (some .unmapped))).1 =
        .error (.error (.query "column 'p' has unsupported type POINT; cast it in the query")) :=
    rfl
  rcases (fetchAll_shows hb hrun).1 hrows with
    ⟨rs, hok, -⟩ | ⟨c, f, herror, hfails⟩ | ⟨c, hpanic, -⟩
  · rw [hend] at hok
    cases hok
  · rw [hend, Except.error.injEq, Abort.error.injEq] at herror
    have hmessage := congrArg Error.message herror.symm
    exact ⟨_, d, reply, s₁, c, f, hb, hrun, hrows, hend, hmessage, hfails⟩
  · rw [hend] at hpanic
    cases hpanic

/-- The type below all domains. -/
def Postgres.SqlType.innermost : SqlType → SqlType
  | domain _ base => base.innermost
  | t => t

/-- A server that brings a null in a column of a domain without a mapping below it, which is called
as a type with a mapping. -/
def Script.misnamed : Script :=
  (start "h" .anyone).withLines [{ Line.silent with
    description := ⟨[], [⟨"c", .domain "CITEXT" (.plain "POINT")⟩]⟩
    rows := [[none]] }]

/-- A server that brings the date that is later than all others. -/
def Script.infinite : Script :=
  (start "h" .anyone).withLines [{ Line.silent with
    description := ⟨[], [⟨"d", .plain "DATE"⟩]⟩
    rows := [[some [0x7F, 0xFF, 0xFF, 0xFF]]] }]

/-- A domain with the name of a mapped type is read by that name, whatever is below it; and where
there is a panic, there are neither rows nor an error. -/
theorem Connector.fetchAll_misnamed :
    ¬ (SqlType.domain "CITEXT" (.plain "POINT")).innermost.Mapped ∧
    Cell.toJson (.domain "CITEXT" (.plain "POINT")) none = .ok .null ∧
    ((fetchAll Script.server "SELECT c FROM t" none).runOn
      (Session.start .single (some .misnamed))).1 = .ok ⟨["c"], [[.null]]⟩ ∧
    ((fetchAll Script.server "SELECT d FROM t" none).runOn
      (Session.start .single (some .infinite))).1 = .error .panic := by
  refine ⟨?_, rfl, rfl, rfl⟩
  rintro (h | ⟨name, h⟩)
  · exact absurd h (by decide)
  · cases h

end PgRole
