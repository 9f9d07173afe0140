import Outflow.Outcome

/-!
# Building commands

The two ways to a command: from a whole argument vector, or step by step.  Steps collect
arguments and variables in order and set options; a command comes of them if the program has
a name.
-/

namespace Outflow

namespace Command

/-- The command of an argument vector. -/
def ofArgs (args : List String) : Except RunError Command :=
  match ofArgs? args with
  | some c => .ok c
  | none => .error (.invalidCommand "argument vector must start with a program name")

end Command

/-- A command in the making. -/
structure CommandBuilder where
  program : String
  arguments : List String
  env : Option Overlay
  workingDir : Option String
  capture : CaptureMode
  live : Bool
  timeout : Option Duration
  deriving DecidableEq

namespace CommandBuilder

/-- A program without arguments, every option at its default. -/
def start (program : String) : CommandBuilder := ⟨program, [], none, none, .captured, false, none⟩

/-- One step towards a command. -/
inductive Part where
  | arg (argument : String)
  | args (arguments : List String)
  | env (name value : String)
  | envs (vars : List (String × String))
  | currentDir (dir : String)
  | capture (mode : CaptureMode)
  | live (enabled : Bool)
  | timeout (limit : Duration)

/-- Take one step.  Arguments and variables add to those before; other options replace. -/
def add (b : CommandBuilder) : Part → CommandBuilder
  | .arg a => { b with arguments := b.arguments ++ [a] }
  | .args as => { b with arguments := b.arguments ++ as }
  | .env n v => { b with env := some ((b.env.getD []).insert n v) }
  | .envs vars => { b with env := some ((b.env.getD []).insertAll vars) }
  | .currentDir dir => { b with workingDir := some dir }
  | .capture mode => { b with capture := mode }
  | .live enabled => { b with live := enabled }
  | .timeout limit => { b with timeout := some limit }

/-- The command that was built. -/
def build (b : CommandBuilder) : Except RunError Command :=
  if h : Text.blank b.program = false then
    .ok ⟨b.program, b.arguments, h, b.workingDir, b.env, b.capture, b.live, b.timeout⟩
  else .error (.invalidCommand "program name must not be empty")

end CommandBuilder

end Outflow
