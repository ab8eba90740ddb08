import PgRole.Text.Case

/-!
# Formats of credential files

The format of a file goes by the extension of its name: YAML for `yaml` and `yml` in any case, and
JSON for all else. The name is the last component of the path; a name that begins with its only dot
has no extension.
-/

namespace PgRole.Credentials

/-- The format of a credential file. -/
inductive FileFormat where
  | json
  | yaml
  deriving DecidableEq, Repr

/-- The parts of a path between slashes. -/
def pathParts : List Char → List (List Char)
  | [] => [[]]
  | '/' :: r => [] :: pathParts r
  | c :: r =>
    match pathParts r with
    | [] => [[c]]
    | p :: ps => (c :: p) :: ps

/-- The components of a path: its parts without empty ones and single dots. -/
def pathComponents (path : String) : List (List Char) :=
  (pathParts path.toList).filter fun p => !p.isEmpty && p != ['.']

/-- The extension of a name. -/
def extension? (name : List Char) : Option (List Char) :=
  let r := name.reverse
  match r.dropWhile (· ≠ '.') with
  | [] => none
  | _ :: before => if before.isEmpty then none else some (r.takeWhile (· ≠ '.')).reverse

/-- The format of a path. -/
def FileFormat.ofPath (path : String) : FileFormat :=
  match (pathComponents path).getLast? with
  | none => .json
  | some name =>
    if name = ['.', '.'] then .json
    else
      match (extension? name).map fun e => Text.asciiSmall (String.ofList e) with
      | some "yaml" | some "yml" => .yaml
      | _ => .json

example : FileFormat.ofPath "a.json.yml/." = .yaml := by decide +kernel
example : FileFormat.ofPath ".yaml" = .json := by decide +kernel

end PgRole.Credentials
