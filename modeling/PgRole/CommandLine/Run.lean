import PgRole.CommandLine.Arguments
import PgRole.CommandLine.Pairs
import PgRole.Connector.Run
import PgRole.Credentials.Loading

/-!
# Runs of the program

A run takes arguments, the files and the variables, and a server, and gives what is printed and
the exit code. Roles are listed from the credential file alone; `ping` and `query` make a connector
for a role. A run that fails ends with one line on the error output, in full or sanitized, and code
1; arguments that make no sense end with code 2, and a run that panics with code 101.
-/

namespace PgRole.CommandLine

open Credentials

/-- What a run prints, and its exit code. -/
structure Output where
  code : Nat
  stdout : String
  stderr : String
  deriving DecidableEq, Repr

/-- What the run of a command printed, and how it was cut short, if it was. -/
structure Report where
  printed : String
  abort : Option (Abort Error)
  deriving DecidableEq, Repr

namespace Report

/-- A run that prints a text and a line end. -/
def line (s : String) : Report := ⟨s ++ "\n", none⟩

/-- A run that is cut short and prints nothing. -/
def aborted (a : Abort Error) : Report := ⟨"", some a⟩

/-- The code of a run that panics. -/
def panicCode : Nat := 101

/-- The output of a run. What a panic itself tells on the error output is left out. -/
def output (verbose : Bool) (r : Report) : Output :=
  match r.abort with
  | none => ⟨0, r.printed, ""⟩
  | some (.error e) => ⟨1, r.printed, e.line verbose ++ "\n"⟩
  | some .panic => ⟨panicCode, r.printed, ""⟩

end Report

/-- What a run can reach: the texts of files by their paths, the variables, and a server. -/
structure Surroundings (σ : Type) where
  files : String → Except String String
  environment : Variables
  server : Server σ

/-- How a command ends: its report, the state of the server and the messages to it. -/
structure Ending (σ : Type) where
  report : Report
  server : σ
  sent : List Request

variable {σ : Type}

/-- The store of a credential file. -/
def store (w : Surroundings σ) (file : String) : Attempt Error Store :=
  let source : SourceFile := ⟨file, w.files file⟩
  if Store.loadingPanics w.environment source then .error .panic
  else (Store.loadFile w.environment source).mapError fun f => .error f.error

/-- The connector for a role of a credential file. -/
def connector (w : Surroundings σ) (file role : String) : Attempt Error Connector := do
  let s ← store w file
  (Connector.ofStore s role).mapError fun f => .error f.error

/-! ## Commands -/

/-- A role and where its profile leads, without the password. -/
def roleJson (role : String) (p : Profile) : Json :=
  .obj [("host", .str p.host), ("name", .str p.name), ("port", .str p.port), ("role", .str role),
    ("user", .str p.user)]

/-- The roles of a store as a list of JSON objects. -/
def rolesJson (s : Store) : String := (Json.arr (s.entries.map fun e => roleJson e.1 e.2)).pretty

/-- The roles of a store, one a line. -/
def rolesLines (s : Store) : String :=
  "\n".intercalate (s.entries.map fun e => e.1 ++ "\t" ++ e.2.summary)

/-- The roles of a store. -/
def rolesText (asJson : Bool) (s : Store) : String := if asJson then rolesJson s else rolesLines s

/-- Lists the roles. -/
def roles (w : Surroundings σ) (file : String) (asJson : Bool) : Report :=
  match store w file with
  | .error a => .aborted a
  | .ok s => .line (rolesText asJson s)

/-- A step of a connector made for a role, from a state of the server. -/
def withConnector (w : Surroundings σ) (file role : String) (state : σ)
    (use : Connector → Session σ → Report × Session σ) : Ending σ :=
  match connector w file role with
  | .error a => ⟨.aborted a, state, []⟩
  | .ok c =>
    let (r, s) := use c ⟨c, state, []⟩
    ⟨r, s.server, s.sent⟩

/-- Asks whether the server answers, tells so, and closes. -/
def ping (w : Surroundings σ) (c : Connector) (s : Session σ) : Report × Session σ :=
  match (Connector.ping w.server).runOn s with
  | (.error a, s) => (.aborted a, s)
  | (.ok (), s) =>
    let (closed, s) := (Connector.close w.server).runOn s
    let told := Report.line ("ok: " ++ c.profile.summary)
    match closed with
    | .ok () => (told, s)
    | .error a => ({ told with abort := some a }, s)

/-- The result of a query: all rows with the names of the columns, or the values of the first row,
null without one. -/
def queried (srv : Server σ) (sql : String) (params : Option Sql.Params) (all : Bool) :
    Call σ Json := do
  if all then return (← Connector.fetchAll srv sql params).toJson
  else
    match ← Connector.fetchOne srv sql params with
    | some r => return .arr r.values
    | none => return .null

/-- Runs a query, closes, and prints the result. -/
def query (w : Surroundings σ) (sql : String) (params : Sql.Params) (all : Bool)
    (s : Session σ) : Report × Session σ :=
  let step : Call σ Json := do
    let j ← queried w.server sql (if params.isEmpty then none else some params) all
    Connector.close w.server
    return j
  match step.runOn s with
  | (.error a, s) => (.aborted a, s)
  | (.ok j, s) => (.line j.pretty, s)

/-- Runs a command from a state of the server. -/
def perform (w : Surroundings σ) (state : σ) (file : String) : Command → Ending σ
  | .roles asJson => ⟨roles w file asJson, state, []⟩
  | .ping role => withConnector w file role state (ping w)
  | .query role sql pairs all =>
    match Pairs.read pairs with
    | .error f => ⟨.aborted (.error f.error), state, []⟩
    | .ok params => withConnector w file role state fun _ => query w sql params all

/-! ## Runs -/

/-- What the program is and its version. -/
def versionText : String := applicationName ++ " 0.3.0\n"

/-- How the program is used. -/
def usageText : String :=
  "Usage: " ++ applicationName ++ " [-f FILE] [-v] COMMAND\n\n" ++
    "  roles [--json]                                list the roles of the file\n" ++
    "  ping -r ROLE                                  ask whether the database answers\n" ++
    "  query -r ROLE -s SQL [-p KEY=VALUE]... [-a]   print what a query gives\n"

/-- The output where there is nothing to do. -/
def Stop.output : Stop → Output
  | usage => ⟨2, "", usageText⟩
  | help => ⟨0, usageText, ""⟩
  | version => ⟨0, versionText, ""⟩

/-- A run of the program from a state of the server: its output and the messages to the server. -/
def run (w : Surroundings σ) (state : σ) (args : List String) : Output × List Request :=
  match Invocation.ofArguments args with
  | .error stop => (stop.output, [])
  | .ok i =>
    let e := perform w state i.file i.command
    (e.report.output i.verbose, e.sent)

end PgRole.CommandLine
