import PgRole.Credentials.Format
import PgRole.Keyed

/-!
# Folders

A folder as a table of its files by their paths, for a program that reads files by path. A path is
followed through its components; the reasons why nothing can be read are the system's.
-/

namespace PgRole

/-- The texts of files by their paths in a folder. -/
abbrev Folder := Keyed String

namespace Folder

open Credentials

/-- There is nothing at a path. -/
def missing : String := "No such file or directory (os error 2)"

/-- A path goes on behind a file. -/
def notFolder : String := "Not a directory (os error 20)"

/-- A path ends at a folder. -/
def isFolder : String := "Is a directory (os error 21)"

/-- Whether a path can only be that of a folder: it ends in a slash or a dot component. -/
def namesFolder (path : String) : Bool :=
  match path.toList.reverse with
  | '/' :: _ | '.' :: '/' :: _ | ['.'] => true
  | _ => false

/-- The text of the file at a path, or the reason why there is none. -/
def read (f : Folder) (path : String) : Except String String :=
  let cs := pathComponents path
  let files := f.entries.map fun (name, content) => (pathComponents name, content)
  if path = "" ∨ path.toList.head? = some '/' then .error missing
  else
    match files.lookup cs with
    | some content => if namesFolder path then .error notFolder else .ok content
    | none =>
      if files.any fun file => file.1.isPrefixOf cs then .error notFolder
      else if files.any (fun file => cs.isPrefixOf file.1) || cs.all (· == ['.', '.']) then
        .error isFolder
      else .error missing

end Folder

end PgRole
