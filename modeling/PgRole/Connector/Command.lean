import PgRole.Connector.Run

/-!
# Commands

The calls of a connector as data, and sessions that a list of calls leads to. A session goes on
after a call that failed.
-/

namespace PgRole

/-- A call of a connector. -/
inductive Command where
  | fetchOne (sql : String) (params : Option Sql.Params)
  | fetchAll (sql : String) (params : Option Sql.Params)
  | upsert (sql : String) (params : Option Sql.Params)
  | execute (s : Statement)
  | executeMany (ss : List Statement)
  | rowExists (table : String) (conditions : List ExistsCondition) (join : Option Join)
  | ping

/-- What a call gives. -/
inductive Response where
  | row (r : Option Record)
  | rows (s : RowSet)
  | affected (n : UInt64)
  | outcome (o : Outcome)
  | outcomes (os : List Outcome)
  | found (b : Bool)
  | alive

namespace Command

variable {σ : Type}

/-- What a call does. -/
def run (srv : Server σ) : Command → Call σ Response
  | fetchOne sql params => .row <$> Connector.fetchOne srv sql params
  | fetchAll sql params => .rows <$> Connector.fetchAll srv sql params
  | upsert sql params => .affected <$> Connector.upsert srv sql params
  | execute s => .outcome <$> Connector.execute srv s
  | executeMany ss => .outcomes <$> Connector.executeMany srv ss
  | rowExists table conditions join => .found <$> Connector.rowExists srv table conditions join
  | ping => (fun _ => .alive) <$> Connector.ping srv

/-- The statements of a call, those without a text left out. -/
def statements : Command → List Sql.Bound
  | fetchOne sql params | fetchAll sql params | upsert sql params =>
    (Sql.compile sql params).toOption.toList
  | execute s => (Sql.render s).toOption.toList
  | executeMany ss => ss.filterMap fun s => (Sql.render s).toOption
  | rowExists table conditions join => (Sql.renderExists table conditions join).toOption.toList
  | ping => []

/-- The statement of a call of a single one, or the error there is instead. -/
def statement? : Command → Option (Except Error Sql.Bound)
  | fetchOne sql params | fetchAll sql params | upsert sql params =>
    some ((Sql.compile sql params).mapError fun f => f.error)
  | execute s => some ((Sql.render s).mapError fun f => f.error)
  | rowExists table conditions join =>
    some ((Sql.renderExists table conditions join).mapError fun f => f.error)
  | executeMany _ | ping => none

end Command

namespace Session

variable {σ : Type}

/-- A session in which nothing was sent. -/
def start (c : Connector) (server : σ) : Session σ := ⟨c, server, []⟩

/-- The session after calls, whatever they gave. -/
def serve (srv : Server σ) (cs : List Command) (s : Session σ) : Session σ :=
  cs.foldl (fun s c => ((c.run srv).runOn s).2) s

end Session

end PgRole
