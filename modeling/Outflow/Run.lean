import Outflow.Execution

/-!
# Runs from their start

A run starts a command, executes the child that comes of it, and has the last word about it in
the log.  What starting the command comes to is given: an error, or a child with all that it
will do.

The streams of a child are read if its command is captured.  Otherwise they are the streams of
this program, and what the child writes to them is inherited.
-/

namespace Outflow

/-- A child that has been started. -/
structure Started where
  child : Child
  /-- What its streams will do, if they are read. -/
  schedule : Schedule
  /-- What it will have written to the streams of this program after a run, if they are not. -/
  inherited : Execution → Stream.Pair Bytes
  /-- What the log says of the child after what a run let out: that it was ended by force. -/
  notes : Execution → List LogEntry
  /-- How long a run took, from the start until the child was left alone. -/
  took : Execution → Duration

/-- A run from the start of its command, as seen from outside. -/
structure Run where
  pid : Pid
  outcome : Outcome
  /-- The lines and log entries let out, in order. -/
  emitted : List Emission
  /-- What the child wrote to the streams of this program. -/
  inherited : Stream.Pair Bytes

namespace Run

/-- The word in the log about a program that could not be started. -/
def spawnNote (command : Command) (e : IoError) : Emission :=
  .log ⟨.error, .process,
    s!"Failed to spawn '{command.program}': {e.detail} (kind: {e.kind.name})", none⟩

/-- The word in the log about a child that did not come to an end of its own. -/
def interruptionNote (took : Duration) : Outcome → List Emission
  | .ok _ => []
  | .error (.commandFailed ..) => []
  | .error e =>
    [.log ⟨.warn, .runner, s!"Subprocess did not complete after {took.brief}: {e.message}", none⟩]

/-- The run of a command that could not be started. -/
def unstarted (command : Command) (e : IoError) : Run where
  pid := none
  outcome := .error (.spawn command.args e)
  emitted := [spawnNote command e]
  inherited := ⟨[], []⟩

/-- The streams of a child that are there to be read. -/
def streams (command : Command) (s : Started) : Option Schedule :=
  match command.capture with
  | .captured => some s.schedule
  | .discarded => none

/-- The run of a child that was started and executed. -/
def executed (command : Command) (s : Started) (x : Execution) : Run where
  pid := s.child.pid
  outcome := x.outcome
  emitted := x.emitted ++ (s.notes x).map .log ++ interruptionNote (s.took x) x.outcome
  inherited :=
    match command.capture with
    | .captured => ⟨[], []⟩
    | .discarded => s.inherited x

/-- Run a command, given what starting it comes to.  Nothing comes back from a run that never
ends. -/
def ofStart (config : RunnerConfig) (command : Command) : Except IoError Started → Option Run
  | .error e => some (unstarted command e)
  | .ok s => (execute config command s.child (streams command s)).map (executed command s)

end Run

end Outflow
