import PgRole.Credentials.Format
import PgRole.Credentials.JsonForm
import PgRole.Credentials.Variables
import PgRole.Credentials.YamlForm

/-!
# Stores from files

A store that a program can use comes from a text in three stages: it is read in its format, its
references to the environment are replaced, and its profiles are checked. A file is a path and what
the file system gives for it, so that reading it does not have to happen here.
-/

namespace PgRole

namespace Credentials

/-- A path, and its text or the reason why there is none. -/
structure SourceFile where
  path : String
  content : Except String String

end Credentials

namespace Store

open Credentials

/-- The store that a text of a format describes. -/
def ofText (format : FileFormat) (s : String) : Except Fault Store :=
  match format with
  | .json => (ofJsonText? s).elim (.error .badJson) .ok
  | .yaml => (ofYamlText? s).elim (.error .badYaml) .ok

/-- The store that a text describes, its references replaced. -/
def ofTextResolved (vs : Variables) (format : FileFormat) (s : String) : Except Fault Store :=
  (ofText format s).bind fun store => (vs.resolveStore store).1

/-- The store that a text describes, its references replaced and its profiles checked. -/
def load (vs : Variables) (format : FileFormat) (s : String) : Except Fault Store := do
  let store ← ofTextResolved vs format s
  store.validate
  pure store

/-- The store of a file, in the format that its path tells. -/
def loadFile (vs : Variables) (file : SourceFile) : Except Fault Store :=
  match file.content with
  | .error reason => .error (.unreadableFile file.path reason)
  | .ok s => load vs (.ofPath file.path) s

/-- Whether a text of a store has references, so that the file of variables is read. -/
def hasReferences (s : Store) : Bool :=
  s.entries.any fun (_, p) =>
    p.hasPlaceholders && Profile.fields.any fun f => hasReference (p.get f)

/-- Whether reading a file panics, over the file of variables that its references need. -/
def loadingPanics (vs : Variables) (file : SourceFile) : Bool :=
  match file.content with
  | .error _ => false
  | .ok s =>
    match ofText (.ofPath file.path) s with
    | .error _ => false
    | .ok store => store.hasReferences && vs.set.panicsOn vs.file

end Store

end PgRole
