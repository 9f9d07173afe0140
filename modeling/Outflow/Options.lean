import Outflow.Command.Builder
import Outflow.Duration.Units

/-!
# The command line

What can be asked of the program, and how that is read from its arguments.

`run` takes options and then a command.  The first argument that is no option starts the
command, and from there on nothing is an option any more; an argument that only looks like an
option, but is none of ours, starts the command too.  `config` takes options and no command.

An option that takes its value from the next argument is checked when the argument after the
value is read, or at the end.
-/

namespace Outflow

/-- How the result of a run is reported. -/
inductive OutputFormat where
  | text
  | json
  deriving DecidableEq, Repr

/-- The name of a format. -/
def OutputFormat.name : OutputFormat → String
  | text => "text"
  | json => "json"

/-- The format of a name. -/
def OutputFormat.ofName? (s : String) : Option OutputFormat := [text, json].find? (·.name = s)

/-- A run that was asked for. -/
structure RunOptions where
  cwd : Option String
  /-- Variables in the order in which they were given, repeated names included. -/
  env : List (String × String)
  noCapture : Bool
  live : Bool
  timeout : Option Duration
  config : Option String
  format : OutputFormat
  command : List String
  deriving DecidableEq

/-- What was asked for. -/
inductive Request where
  | run (options : RunOptions)
  /-- Show the settings in effect. -/
  | config (path : Option String)
  deriving DecidableEq

/-- A command line. -/
structure CommandLine where
  /-- How often more detail was asked for. -/
  verbosity : Nat
  request : Request
  deriving DecidableEq

/-- What an explanation is asked for. -/
inductive HelpTopic where
  | overview
  /-- The options of `run`, each in a line, or `inFull`. -/
  | run (inFull : Bool)
  | config
  | help
  deriving DecidableEq, Repr

/-- Why a command line asks for nothing that could be done, or only for an explanation. -/
inductive UsageError where
  | helpWanted (topic : HelpTopic)
  | versionWanted
  /-- There are no arguments at all. -/
  | nothingAsked
  | verbMissing
  | verbUnknown
  | argumentUnknown
  | commandMissing
  /-- Options that exclude each other, or one that is given twice. -/
  | conflict
  /-- A value that is missing, empty, or not one of those allowed. -/
  | valueInvalid
  /-- A value for an option that takes none. -/
  | valueUnwanted
  /-- A value that its reader refused. -/
  | valueRefused (cause : String)
  deriving DecidableEq, Repr

/-- The exit status of the program after a usage error. -/
def UsageError.exitStatus : UsageError → Nat
  | helpWanted _ => 0
  | versionWanted => 0
  | _ => 2

namespace CommandLine

/-! ### Options -/

/-- An option without a value. -/
inductive Switch where
  | verbose
  | help (topic : HelpTopic)
  | version
  | noCapture
  | live
  deriving DecidableEq, Repr

/-- An option with a value. -/
inductive Setting where
  | cwd
  | env
  | timeout
  | config
  | format
  deriving DecidableEq, Repr

/-- An option. -/
inductive Choice where
  | switch (s : Switch)
  | setting (s : Setting)
  deriving DecidableEq, Repr

/-- The options that are known somewhere on the command line. -/
structure Grammar where
  /-- Options by their long names. -/
  long : List (String × Choice)
  /-- Options by their letters. -/
  short : List (Char × Choice)
  /-- Whether a command may follow. -/
  takesCommand : Bool

/-- The options in front of the verb. -/
def topGrammar : Grammar where
  long :=
    [("verbose", .switch .verbose), ("help", .switch (.help .overview)),
     ("version", .switch .version)]
  short :=
    [('v', .switch .verbose), ('h', .switch (.help .overview)), ('V', .switch .version)]
  takesCommand := false

/-- The options of `run`. -/
def runGrammar : Grammar where
  long :=
    [("verbose", .switch .verbose), ("help", .switch (.help (.run true))),
     ("no-capture", .switch .noCapture), ("live", .switch .live), ("cwd", .setting .cwd),
     ("env", .setting .env), ("timeout", .setting .timeout), ("config", .setting .config),
     ("format", .setting .format)]
  short :=
    [('v', .switch .verbose), ('h', .switch (.help (.run false))), ('C', .setting .cwd),
     ('e', .setting .env), ('c', .setting .config)]
  takesCommand := true

/-- The options of `config`. -/
def configGrammar : Grammar where
  long :=
    [("verbose", .switch .verbose), ("help", .switch (.help .config)),
     ("config", .setting .config)]
  short :=
    [('v', .switch .verbose), ('h', .switch (.help .config)), ('c', .setting .config)]
  takesCommand := false

/-- The option of a long name. -/
def Grammar.long? (g : Grammar) (name : String) : Option Choice :=
  (g.long.find? (·.1 = name)).map (·.2)

/-- The option of a letter. -/
def Grammar.short? (g : Grammar) (c : Char) : Option Choice :=
  (g.short.find? (·.1 = c)).map (·.2)

/-! ### Arguments -/

/-- What an argument looks like. -/
inductive Shape where
  /-- Two hyphens alone. -/
  | divider
  /-- Two hyphens and a name, perhaps with a value after an equals sign. -/
  | long (name : String) (value : Option String)
  /-- A hyphen and letters. -/
  | short (letters : List Char)
  /-- Anything else, a lone hyphen included. -/
  | plain
  deriving DecidableEq, Repr

/-- A text cut at its first equals sign. -/
def cutAtEquals (cs : List Char) : String × Option String :=
  (String.ofList (cs.takeWhile (· ≠ '=')),
    match cs.dropWhile (· ≠ '=') with
    | [] => none
    | _ :: value => some (String.ofList value))

/-- The shape of an argument. -/
def Shape.ofArg (arg : String) : Shape :=
  match arg.toList with
  | ['-', '-'] => divider
  | '-' :: '-' :: cs =>
    let (name, value) := cutAtEquals cs
    long name value
  | '-' :: c :: cs => short (c :: cs)
  | _ => plain

/-! ### What has been given -/

/-- The options given so far. -/
structure Given where
  verbosity : Nat
  cwd : Option String
  env : List (String × String)
  noCapture : Bool
  live : Bool
  timeout : Option Duration
  config : Option String
  format : Option OutputFormat
  deriving DecidableEq

namespace Given

/-- No option was given. -/
def nothing : Given := ⟨0, none, [], false, false, none, none, none⟩

/-- The most that is counted of requests for more detail. -/
def maxVerbosity : Nat := 255

/-- Take an option without a value. -/
def turnOn (g : Given) : Switch → Except UsageError Given
  | .verbose => .ok { g with verbosity := min (g.verbosity + 1) maxVerbosity }
  | .help topic => .error (.helpWanted topic)
  | .version => .error .versionWanted
  | .noCapture => if g.noCapture then .error .conflict else .ok { g with noCapture := true }
  | .live => if g.live then .error .conflict else .ok { g with live := true }

/-- A path, which may not be empty. -/
def path (value : String) : Except UsageError String :=
  if value = "" then .error .valueInvalid else .ok value

/-- A variable with its value: the name ends at the first equals sign and is not empty. -/
def assignment? (value : String) : Option (String × String) :=
  match cutAtEquals value.toList with
  | (name, some value) => if name = "" then none else some (name, value)
  | (_, none) => none

/-- Take an option with its value.  Only variables may be given more than once. -/
def choose (g : Given) (s : Setting) (value : String) : Except UsageError Given :=
  match s with
  | .cwd =>
    if g.cwd.isSome then .error .conflict else (path value).map fun p => { g with cwd := some p }
  | .config =>
    if g.config.isSome then .error .conflict
    else (path value).map fun p => { g with config := some p }
  | .env =>
    match assignment? value with
    | some pair => .ok { g with env := g.env ++ [pair] }
    | none => .error (.valueRefused s!"expected KEY=VALUE, got '{value}'")
  | .timeout =>
    if g.timeout.isSome then .error .conflict
    else
      match Duration.ofUnits? value with
      | .ok d => .ok { g with timeout := some d }
      | .error e => .error (.valueRefused e.message)
  | .format =>
    if g.format.isSome then .error .conflict
    else
      match OutputFormat.ofName? value with
      | some f => .ok { g with format := some f }
      | none => .error .valueInvalid

end Given

/-! ### Reading -/

/-- An option whose value is not settled. -/
inductive Pending where
  | nothing
  /-- The value is still to come. -/
  | awaits (s : Setting)
  /-- The value has come. -/
  | holds (s : Setting) (value : String)
  deriving DecidableEq, Repr

/-- A command line that has been read in part. -/
structure Reading where
  given : Given
  pending : Pending
  deriving DecidableEq

namespace Reading

/-- Nothing has been read. -/
def start : Reading := ⟨.nothing, .nothing⟩

/-- Settle the value of the last option. -/
def settle (r : Reading) : Except UsageError Given :=
  match r.pending with
  | .nothing => .ok r.given
  | .awaits _ => .error .valueInvalid
  | .holds s value => r.given.choose s value

/-- Take an option without a value. -/
def turnOn (r : Reading) (s : Switch) : Except UsageError Reading := do
  return ⟨← (← r.settle).turnOn s, .nothing⟩

/-- Take an option whose value is part of the same argument. -/
def choose (r : Reading) (s : Setting) (value : String) : Except UsageError Reading := do
  return ⟨← (← r.settle).choose s value, .nothing⟩

/-- Take an option whose value is the next argument. -/
def await (r : Reading) (s : Setting) : Except UsageError Reading := do
  return ⟨← r.settle, .awaits s⟩

/-- Take an option by its long name. -/
def long (r : Reading) (choice : Choice) (value : Option String) : Except UsageError Reading :=
  match choice, value with
  | .switch s, none => r.turnOn s
  | .switch _, some _ => .error .valueUnwanted
  | .setting s, some value => r.choose s value
  | .setting s, none => r.await s

/-- Take options by their letters.  The letters after one that takes a value are its value. -/
def short (g : Grammar) (r : Reading) : List Char → Except UsageError Reading
  | [] => .ok r
  | c :: cs =>
    match g.short? c, cs with
    | none, _ => .error .argumentUnknown
    | some (.switch s), cs =>
      match r.turnOn s with
      | .error e => .error e
      | .ok r => short g r cs
    | some (.setting s), [] => r.await s
    | some (.setting s), '=' :: cs => r.choose s (String.ofList cs)
    | some (.setting s), cs => r.choose s (String.ofList cs)

/-- Whether an argument can be nothing but options of ours. -/
def isOption (g : Grammar) : Shape → Bool
  | .divider => false
  | .long name _ => (g.long? name).isSome || !g.takesCommand
  | .short letters => letters.all (fun c => (g.short? c).isSome) || !g.takesCommand
  | .plain => false

/-- Take an argument that is nothing but options. -/
def option (g : Grammar) (r : Reading) : Shape → Except UsageError Reading
  | .long name value =>
    match g.long? name with
    | some choice => r.long choice value
    | none => .error .argumentUnknown
  | .short letters => r.short g letters
  | _ => .error .argumentUnknown

/-- Start the command, if there may be one. -/
def command (g : Grammar) (r : Reading) (args : List String) :
    Except UsageError (Given × List String) :=
  if g.takesCommand ∨ args = [] then r.settle.map (·, args) else .error .argumentUnknown

/-- Read options, and the command after them. -/
def read (g : Grammar) (r : Reading) : List String → Except UsageError (Given × List String)
  | [] => r.settle.map (·, [])
  | arg :: rest =>
    if Shape.ofArg arg = .divider then r.command g rest
    else if isOption g (Shape.ofArg arg) then
      match r.option g (Shape.ofArg arg) with
      | .error e => .error e
      | .ok r => read g r rest
    else
      match r.pending with
      | .awaits s => read g { r with pending := .holds s arg } rest
      | _ => r.command g (arg :: rest)

end Reading

/-- The run that some options and a command ask for. -/
def runRequest (g : Given) (command : List String) : Except UsageError Request :=
  if g.live && g.noCapture then .error .conflict
  else if command = [] then .error .commandMissing
  else
    let format := g.format.getD .text
    .ok (.run ⟨g.cwd, g.env, g.noCapture, g.live, g.timeout, g.config, format, command⟩)

/-- What may be asked for. -/
def verbs : List String := ["run", "config", "help"]

/-- The explanation of a verb. -/
def topicOf? (verb : String) : Option HelpTopic :=
  match verb with
  | "run" => some (.run true)
  | "config" => some .config
  | "help" => some .help
  | _ => none

/-- The verbosity of a whole command line: what is said after the verb overrides what was said
before it. -/
def overridden (before after : Nat) : Nat := if after = 0 then before else after

/-- Read what follows a verb. -/
def readVerb (verbosity : Nat) (verb : String) (args : List String) :
    Except UsageError CommandLine :=
  if verb = "run" then do
    let (given, command) ← Reading.start.read runGrammar args
    return ⟨overridden verbosity given.verbosity, ← runRequest given command⟩
  else if verb = "config" then do
    let (given, _) ← Reading.start.read configGrammar args
    return ⟨overridden verbosity given.verbosity, .config given.config⟩
  else
    match args with
    | [] => .error (.helpWanted .overview)
    | [verb] => .error ((topicOf? verb).elim .verbUnknown .helpWanted)
    | _ => .error .verbUnknown

/-- Read the arguments from the front, up to the verb. -/
def readTop (r : Reading) : List String → Except UsageError CommandLine
  | [] => .error (if r.given.verbosity = 0 then .nothingAsked else .verbMissing)
  | arg :: rest =>
    if arg ∈ verbs then readVerb r.given.verbosity arg rest
    else
      match Shape.ofArg arg with
      | .divider =>
        match rest with
        | [] => .error (if r.given.verbosity = 0 then .nothingAsked else .verbMissing)
        | arg :: _ => .error (if arg ∈ verbs then .argumentUnknown else .verbUnknown)
      | .plain => .error .verbUnknown
      | shape =>
        match r.option topGrammar shape with
        | .error e => .error e
        | .ok r => readTop r rest

/-- Read the arguments of the program, without its own name. -/
def ofArgs (args : List String) : Except UsageError CommandLine := readTop .start args

end CommandLine

namespace RunOptions

/-- The command that a run is to execute. -/
def toCommand (o : RunOptions) : Except RunError Command :=
  let start := CommandBuilder.start (o.command.headD "")
  let parts : List CommandBuilder.Part :=
    [.args o.command.tail, .live o.live,
      .capture (if o.noCapture then .discarded else .captured)] ++
    (o.cwd.map .currentDir).toList ++
    (if o.env = [] then [] else [.envs o.env]) ++
    (o.timeout.map .timeout).toList
  (parts.foldl CommandBuilder.add start).build

end RunOptions

end Outflow
