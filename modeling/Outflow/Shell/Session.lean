import Outflow.Host.Machine
import Outflow.Host.Program
import Outflow.Shell.Job
import Outflow.Shell.Limit
import Outflow.Shell.Syntax
import Outflow.Shell.World

/-!
# A shell at work

What a process knows while it runs: who it is, what it has been told to do at signals, its
channels and its place, and what a shell keeps besides.  Texts are in raw form: each character is
one octet.
-/

namespace Outflow.Shell

/-- A variable. -/
structure Variable where
  name : String
  value : Option String
  isExported : Bool
  isReadOnly : Bool

/-- A process, which may be a shell. -/
structure Session where
  pid : Nat
  parent : Nat
  /-- The processes that are sent signals together go by the number of one of them. -/
  group : Nat
  /-- The process that the shell takes itself for, which a subshell shares with its parent. -/
  leader : Nat
  name : String
  /-- The command inside the shell that is being carried out, as complaints name it. -/
  command : Option String
  arguments : List String
  vars : List Variable
  /-- The variables to put back when the functions that are running return. -/
  frames : List (List Variable)
  functions : List (String × Tree)
  aliases : List (String × String)
  /-- The names of programs that were found on the search path. -/
  hashed : List String
  status : Nat
  /-- The status of the last substitution, if the command has had one. -/
  substituted : Option Nat
  /-- Actions by signal; the exit of the shell is number zero.  An empty action ignores. -/
  traps : List (Signal × String)
  /-- Signals that have been ignored from the beginning, which no action is carried out for. -/
  deafTo : List Signal
  channels : Channels
  /-- Channels that are put by while others take their places, and lost with the program. -/
  kept : List Channel
  /-- The working directory. -/
  dir : List String
  /-- The way that was taken to it. -/
  way : List String
  umask : Nat
  limits : List Limit
  /-- The letters of the options that are on. -/
  options : List Char
  /-- The outcome of the command that runs is being asked for. -/
  isGuarded : Bool
  /-- How many loops the command that runs is in. -/
  loops : Nat
  line : Nat
  /-- The next argument to look for options in, and how far into the one before it. -/
  optionIndex : Nat
  optionOffset : Option Nat
  /-- Signals whose actions are due, and when a process that waits takes notice of them. -/
  pending : List Signal
  noticed : Nat
  /-- How many actions are being carried out, and the status before the first of them. -/
  actions : Nat
  interrupted : Option Nat
  /-- The commands in the background, newest first, and the newest process among them. -/
  jobs : List Job
  lastJob : Option Nat
  world : World

/-! ### Signals -/

/-- What happens to a process at a signal. -/
inductive Disposition where
  | ignored
  | acted
  | stopping
  | lethal
  deriving DecidableEq

/-- What a signal does to a process. -/
def Session.disposition (s : Session) (signal : Signal) : Disposition :=
  if signal = Signal.kill then .lethal
  else if signal = Signal.stop then .stopping
  else if s.deafTo.contains signal then .ignored
  else
    match s.traps.find? (·.1 = signal) with
    | some (_, "") => .ignored
    | some _ => .acted
    | none => if Signal.ignoredByDefault signal then .ignored else .lethal

/-- A process that forgets the actions of its parent, as every new process does. -/
def Session.forgetActions (s : Session) : Session :=
  { s with traps := s.traps.filter (·.2 = ""), pending := [] }

/-- A process to which no signal makes a difference any more. -/
def Session.dying (s : Session) : Session :=
  { s with traps := [], deafTo := List.range (Signal.last + 1) }

/-- All channels of a process. -/
def Session.held (s : Session) : List Channel := s.channels.map (·.2) ++ s.kept

/-! ### Variables -/

namespace Session

/-- Whether an option is on. -/
def has (s : Session) (letter : Char) : Bool := s.options.contains letter

/-- A variable by name. -/
def binding? (s : Session) (name : String) : Option Variable :=
  s.vars.find? (·.name = name)

/-- The value of a variable. -/
def value? (s : Session) (name : String) : Option String :=
  (s.binding? name).bind (·.value)

/-- What changes besides a variable that is changed. -/
def noticeChange (s : Session) (name : String) (value : Option String) : Session :=
  if name = "PATH" then { s with hashed := [] }
  else if name = "OPTIND" then
    { s with
      optionIndex := ((value.bind Utility.readNat).filter (0 < ·)).getD 1, optionOffset := none }
  else s

/-- Replace a variable. -/
def putVariable (s : Session) (v : Variable) : Session :=
  let s := s.noticeChange v.name v.value
  if (s.binding? v.name).isSome then
    { s with vars := s.vars.map fun w => if w.name = v.name then v else w }
  else { s with vars := s.vars ++ [v] }

/-- A variable by name, made up if there is none. -/
def variableOf (s : Session) (name : String) : Variable :=
  (s.binding? name).getD ⟨name, none, false, false⟩

/-- Set a variable. -/
def setValue (s : Session) (name value : String) : Session :=
  let old := s.variableOf name
  s.putVariable { old with value := some value, isExported := old.isExported || s.has 'a' }

/-- The environment of the programs that a shell starts. -/
def environment (s : Session) : List (String × String) :=
  s.vars.filterMap fun v => if v.isExported then v.value.map (v.name, ·) else none

/-- The place of a variable among those of a shell, which does not keep them in order. -/
def place (name : String) : Nat :=
  let codes := name.toList.map Char.toNat
  (16 * codes.headD 0 + codes.foldl (· + ·) 0) % 39

/-- Only what other programs get to see of the variables, in the order of a shell. -/
def exported (s : Session) : Session :=
  let vars := s.vars.filter fun v => v.isExported && v.value.isSome
  { s with vars := vars.mergeSort fun v w => place v.name ≤ place w.name }

/-- The directories that are searched for programs. -/
def searchPath (s : Session) : String := (s.value? "PATH").getD ""

/-- What complaints of the shell begin with. -/
def complaintHead (s : Session) : String :=
  let front := s!"{s.name}: {s.line}: "
  match s.command with
  | some command => s!"{front}{command}: "
  | none => front

end Session

end Outflow.Shell
