/-!
# Arguments of a command line

A command line has options, a command, and options of the command. An option is written `--name` or
`-n`; its value follows as the next argument, behind an equals sign, or behind the letter. Letters
of options without a value can stand together. The file and how much is told may be chosen on either
side of the command; where both sides name a file, that of the command counts.
-/

namespace PgRole.CommandLine

/-- What the program is asked to do. -/
inductive Command where
  | roles (asJson : Bool)
  | ping (role : String)
  | query (role sql : String) (pairs : List String) (all : Bool)
  deriving DecidableEq, Repr

/-- A command with the path of its credential file, and whether errors are told in full. -/
structure Invocation where
  file : String
  verbose : Bool
  command : Command
  deriving DecidableEq, Repr

/-- Why there is nothing to do: the arguments make no sense, or ask for something to be told. -/
inductive Stop where
  | usage
  | help
  | version
  deriving DecidableEq, Repr

/-- An option. -/
inductive Flag where
  | file
  | verbose
  | help
  | version
  | json
  | role
  | sql
  | param
  | all
  deriving DecidableEq, Repr

namespace Flag

/-- The name of an option. -/
def name : Flag → String
  | file => "file"
  | verbose => "verbose"
  | help => "help"
  | version => "version"
  | json => "json"
  | role => "role"
  | sql => "sql"
  | param => "param"
  | all => "all"

/-- The letter of an option. -/
def letter? : Flag → Option Char
  | file => some 'f'
  | verbose => some 'v'
  | help => some 'h'
  | version => some 'V'
  | json => none
  | role => some 'r'
  | sql => some 's'
  | param => some 'p'
  | all => some 'a'

/-- Whether an option has a value. -/
def hasValue : Flag → Bool
  | file | role | sql | param => true
  | verbose | help | version | json | all => false

/-- Whether an option may be given more than once. -/
def repeats (f : Flag) : Bool := f == param

end Flag

/-- A part of a command line: in front of the command, or behind a command. -/
inductive Part where
  | front
  | roles
  | ping
  | query
  deriving DecidableEq, Repr

/-- The options of a part. -/
def Part.flags : Part → List Flag
  | front => [.file, .verbose, .help, .version]
  | roles => [.file, .verbose, .help, .json]
  | ping => [.file, .verbose, .help, .role]
  | query => [.file, .verbose, .help, .role, .sql, .param, .all]

/-- Options with their values, those without one having an empty one. -/
abbrev Given := List (Flag × String)

namespace Given

/-- Adds an option. Asking for help or the version ends the reading. -/
def add (g : Given) (f : Flag) (value : String) : Except Stop Given :=
  match f with
  | .help => .error .help
  | .version => .error .version
  | f => if !f.repeats && g.any (·.1 == f) then .error .usage else .ok (g ++ [(f, value)])

/-- The value of an option. -/
def value? (g : Given) (f : Flag) : Option String := g.lookup f

/-- The values of an option. -/
def values (g : Given) (f : Flag) : List String := (g.filter (·.1 == f)).map (·.2)

/-- Whether an option is given. -/
def has (g : Given) (f : Flag) : Bool := g.any (·.1 == f)

/-- The value of an option that has to be given. -/
def required (g : Given) (f : Flag) : Except Stop String :=
  (g.value? f).elim (.error .usage) .ok

end Given

/-! ## Single arguments -/

/-- What an argument is by its first characters: options end at two dashes alone. -/
inductive Shape where
  | word
  | letters (cs : List Char)
  | named (name : List Char) (value : Option (List Char))
  | endOfOptions
  deriving DecidableEq, Repr

/-- The shape of an argument. -/
def Shape.of (arg : String) : Shape :=
  match arg.toList with
  | ['-', '-'] => .endOfOptions
  | '-' :: '-' :: r =>
    match r.dropWhile (· ≠ '=') with
    | [] => .named r none
    | _ :: value => .named (r.takeWhile (· ≠ '=')) (some value)
  | '-' :: c :: r => .letters (c :: r)
  | _ => .word

/-- Options by their letters. The first that has a value takes what follows it, an equals sign in
between left out; an option whose value is still due is given back. -/
def addLetters (flags : List Flag) : Given → List Char → Except Stop (Given × Option Flag)
  | g, [] => .ok (g, none)
  | g, c :: r =>
    match flags.find? fun f => f.letter? == some c with
    | none => .error .usage
    | some f =>
      if f.hasValue then
        match r with
        | [] => .ok (g, some f)
        | '=' :: value => (g.add f (String.ofList value)).map fun g => (g, none)
        | value => (g.add f (String.ofList value)).map fun g => (g, none)
      else (g.add f "").bind fun g => addLetters flags g r

/-- An option by its name. -/
def addNamed (flags : List Flag) (g : Given) (name : List Char) (value : Option (List Char)) :
    Except Stop (Given × Option Flag) :=
  match flags.find? fun f => f.name.toList == name with
  | none => .error .usage
  | some f =>
    match f.hasValue, value with
    | true, some value => (g.add f (String.ofList value)).map fun g => (g, none)
    | true, none => .ok (g, some f)
    | false, none => (g.add f "").map fun g => (g, none)
    | false, some _ => .error .usage

/-! ## Whole command lines -/

/-- The options of a part in front of the first word, where the value of an option may be due; and
the arguments from that word on, which only the front may have. -/
def readPart (p : Part) : Option Flag → Given → List String → Except Stop (Given × List String)
  | some _, _, [] => .error .usage
  | some f, g, arg :: r =>
    if Shape.of arg = .word then (g.add f arg).bind fun g => readPart p none g r
    else .error .usage
  | none, g, [] => .ok (g, [])
  | none, g, arg :: r =>
    match Shape.of arg with
    | .endOfOptions => if r = [] then .ok (g, []) else .error .usage
    | .word => if p = .front then .ok (g, arg :: r) else .error .usage
    | .letters cs => (addLetters p.flags g cs).bind fun (g, due) => readPart p due g r
    | .named name value =>
      (addNamed p.flags g name value).bind fun (g, due) => readPart p due g r

/-- The command of a part from its options. -/
def commandOf (p : Part) (g : Given) : Except Stop Command :=
  match p with
  | .front => .error .usage
  | .roles => .ok (.roles (g.has .json))
  | .ping => do
    let role ← g.required .role
    pure (.ping role)
  | .query => do
    let role ← g.required .role
    let sql ← g.required .sql
    pure (.query role sql (g.values .param) (g.has .all))

/-- The part behind a command. -/
def partNamed? (word : String) : Option Part :=
  match word with
  | "roles" => some .roles
  | "ping" => some .ping
  | "query" => some .query
  | _ => none

/-- The credential file where none is named. -/
def defaultFile : String := "credentials.json"

/-- Why there is nothing to do behind a word that is no command of its own: help on one command or
on all, or a word without meaning. -/
def stopAt (word : String) (r : List String) : Stop :=
  if word ≠ "help" then .usage
  else
    match r with
    | [] => .help
    | [about] => if about = "help" ∨ (partNamed? about).isSome then .help else .usage
    | _ => .usage

/-- What a command line asks for. -/
def Invocation.ofArguments (args : List String) : Except Stop Invocation := do
  let (front, r) ← readPart .front none [] args
  match r with
  | [] => .error .usage
  | word :: r =>
    match partNamed? word with
    | none => .error (stopAt word r)
    | some p =>
      let (g, _) ← readPart p none [] r
      let c ← commandOf p g
      let file := ((g.value? .file).or (front.value? .file)).getD defaultFile
      pure ⟨file, g.has .verbose || front.has .verbose, c⟩

example : (Invocation.ofArguments ["-vf", "a", "ping", "-r=x"]).toOption =
    some ⟨"a", true, .ping "x"⟩ := by
  decide +kernel

example : (Invocation.ofArguments ["ping", "-r", "-x"]).toOption = none := by decide +kernel

end PgRole.CommandLine
