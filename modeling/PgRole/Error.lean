import PgRole.Text.Quoted

/-!
# Errors

What a caller is told when a call does not succeed: a kind and a message. The kind alone decides
whose fault it is and how much of the message a log may show: the messages of connections and of
internal failures stay hidden, for they may hold addresses.
-/

namespace PgRole

/-- What went wrong, roughly. -/
inductive Error.Kind where
  | configuration
  | connection
  | query
  | invalidArgument
  | internal
  deriving DecidableEq, Repr

/-- A failure as a caller sees it. -/
structure Error where
  kind : Error.Kind
  message : String
  deriving DecidableEq, Repr

namespace Error

namespace Kind

/-- The name of a kind. -/
def name : Kind → String
  | .configuration => "Configuration"
  | .connection => "Connection"
  | .query => "Query"
  | .invalidArgument => "InvalidArgument"
  | .internal => "Internal"

/-- The words before a message of a kind. -/
def label : Kind → String
  | .configuration => "Configuration error: "
  | .connection => "Connection error: "
  | .query => "Query failed: "
  | .invalidArgument => "Invalid argument: "
  | .internal => "Internal error: "

/-- Whether the caller's own input is at fault. -/
def isClient : Kind → Bool
  | .configuration | .invalidArgument => true
  | .connection | .query | .internal => false

end Kind

/-- A configuration error. -/
def configuration (message : String) : Error := ⟨.configuration, message⟩

/-- A connection error. -/
def connection (message : String) : Error := ⟨.connection, message⟩

/-- A query error. -/
def query (message : String) : Error := ⟨.query, message⟩

/-- An error of an argument. -/
def invalidArgument (message : String) : Error := ⟨.invalidArgument, message⟩

/-- The full text. -/
def text (e : Error) : String := e.kind.label ++ e.message

/-- The text without what may have to stay hidden. -/
def sanitized (e : Error) : String :=
  match e.kind with
  | .connection => "Database connection error"
  | .internal => "Internal error"
  | _ => e.text

/-- The line a program ends with, in full or sanitized. -/
def line (e : Error) (full : Bool) : String := "Error: " ++ if full then e.text else e.sanitized

/-- Whether the caller's own input is at fault. -/
def isClient (e : Error) : Bool := e.kind.isClient

/-- Whether something outside the caller's input is at fault. -/
def isServer (e : Error) : Bool := !e.kind.isClient

/-- Kind and quoted message. -/
def debug (e : Error) : String := e.kind.name ++ "(" ++ Text.quoted e.message ++ ")"

end Error

end PgRole
