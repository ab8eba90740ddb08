import PgRole.Credentials.DotEnv

/-!
# References and the file of variables

The file of variables is read only where it is needed, and then each time: a text without references
is left alone, any other text has the environment completed by the file before its references are
replaced. What the file set stays set for the texts after it.
-/

namespace PgRole.Credentials

/-- The variables that are set, and the text of the file of variables, if there is one. -/
structure Variables where
  set : Environment
  file : Option String

/-- There may be no file. -/
instance : Coe Environment Variables := ⟨fun env => ⟨env, none⟩⟩

namespace Variables

/-- The variables after the file was read. -/
def loaded (vs : Variables) : Variables := { vs with set := vs.set.completedBy vs.file }

/-- A text with its references replaced, or the names that are not set. -/
def resolve (s : String) (vs : Variables) : Except (List String) String × Variables :=
  if hasReference s then (Credentials.resolve vs.loaded.set s, vs.loaded) else (.ok s, vs)

/-- Replaces the references of fields in order, up to the first field with a variable that is not
set; that field and its variables. -/
def resolveFields : List Profile.Field → Profile → Variables →
    (Profile × Option (Profile.Field × List String)) × Variables
  | [], p, vs => ((p, none), vs)
  | f :: fs, p, vs =>
    match resolve (p.get f) vs with
    | (.ok s, vs) => resolveFields fs (p.set f s) vs
    | (.error names, vs) => ((p, some (f, names)), vs)

/-- Replaces the references of all fields. -/
def resolveProfile (p : Profile) (vs : Variables) :
    (Profile × Option (Profile.Field × List String)) × Variables :=
  resolveFields Profile.fields p vs

/-- The profile of a role with its references replaced. -/
def resolveEntry (role : String) (p : Profile) (vs : Variables) :
    Except Fault Profile × Variables :=
  if p.hasPlaceholders then
    match resolveProfile p vs with
    | ((p, none), vs) => (.ok p, vs)
    | ((_, some (field, names)), vs) => (.error (.unsetInRole role field names), vs)
  else (.ok p, vs)

/-- The store with all references replaced. -/
def resolveStore (s : Store) (vs : Variables) : Except Fault Store × Variables :=
  s.walk resolveEntry vs

end Variables

end PgRole.Credentials
