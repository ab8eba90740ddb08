import PgRole.CommandLine.Run
import PgRole.Connector.Script

/-!
# The program

Reads the credential file that the arguments name, the environment and the file of variables, and
prints what the run gives. The program has no transport of its own: every server is out of reach, so
that a command that needs one fails when it connects.
-/

namespace PgRole

/-- The reason why a file cannot be read. -/
def unreadableReason : IO.Error → String
  | .noFileOrDirectory _ code details
  | .permissionDenied _ code details
  | .inappropriateType _ code details => details ++ " (os error " ++ Text.natText code.toNat ++ ")"
  | e => toString e

/-- The text of a file, or the reason why there is none. -/
def readSource (path : String) : IO (Except String String) := do
  try
    return .ok (← IO.FS.readFile path)
  catch e => return .error (unreadableReason e)

/-- The variables of a block of null-terminated assignments. -/
def readEnvironment (block : String) : Credentials.Environment :=
  let entries := (block.splitOn "\x00").filterMap fun entry =>
    match entry.splitOn "=" with
    | name :: value => if name.isEmpty then none else some (name, "=".intercalate value)
    | [] => none
  -- of two assignments to one name the first counts
  Keyed.ofList entries.reverse

/-- The variables that are set, and the file of variables. -/
def environment : IO Credentials.Variables := do
  let set := (← readSource "/proc/self/environ").toOption.getD ""
  let file := (← readSource ".env").toOption
  return ⟨readEnvironment set, file⟩

/-- The text of the file that the arguments name. -/
def sourceOf (args : List String) : IO (Except String String) :=
  match CommandLine.Invocation.ofArguments args with
  | .ok i => readSource i.file
  | .error _ => return .ok ""

end PgRole

open PgRole in
/-- Runs the program with its arguments. -/
def main (args : List String) : IO UInt32 := do
  let source ← sourceOf args
  let known ← environment
  let w : CommandLine.Surroundings (Option Script) := ⟨fun _ => source, known, Script.server⟩
  let (output, _) := CommandLine.run w none args
  IO.print output.stdout
  IO.eprint output.stderr
  return UInt32.ofNat output.code
