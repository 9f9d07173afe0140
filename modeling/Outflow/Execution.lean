import Outflow.Command
import Outflow.Config
import Outflow.Drain
import Outflow.Outcome

/-!
# Running a child to its end

`execute` drains the streams of a child that has been started, waits for it, and turns what
happened into an outcome.  A deadline, a stream that fails, or a limit that is passed
interrupts the run; the child is then shut down before the error is given.  Trouble while
shutting down is logged and never replaces that error.

A timeout runs on a timer of whole milliseconds, which is never early and has no longest time:
the deadline is the timeout, with a part of a millisecond counted as one.

The child is given by what it will do: its schedule, the answer to a wait, and the answer to a
request to shut down.  What `execute` asks of it is listed in `Execution.calls`.
-/

namespace Outflow

/-- Trouble while shutting a child down. -/
inductive CleanupError where
  | signal (pid : UInt32) (source : IoError)
  | kill (source : IoError)
  | reap (source : IoError)
  deriving DecidableEq, Repr

namespace CleanupError

/-- The error behind this one. -/
def source : CleanupError → IoError
  | signal _ e => e
  | kill e => e
  | reap e => e

/-- The wording of a cleanup error. -/
def message : CleanupError → String
  | signal pid e => s!"Failed to send termination signal to process {pid}: {e.message}"
  | kill e => s!"Failed to kill process: {e.message}"
  | reap e => s!"Failed to reap process: {e.message}"

end CleanupError

/-- The answer to a wait. -/
inductive WaitAnswer where
  | exits (code : Int32)
  | fails (error : IoError)
  | never
  deriving DecidableEq, Repr

/-- A child, by what it will do once its streams have been taken. -/
structure Child where
  pid : Pid
  /-- The milliseconds that a wait takes. -/
  waitDelay : Nat
  waitAnswer : WaitAnswer
  /-- The answer to a request to shut down. -/
  shutdown : Except CleanupError Unit

/-- Something asked of a child. -/
inductive Call where
  | wait
  | shutdown (grace : Duration)
  deriving DecidableEq, Repr

/-- A run, as seen from outside. -/
structure Execution where
  outcome : Outcome
  /-- What was asked of the child, in order. -/
  calls : List Call
  /-- The lines and log entries let out, in order. -/
  emitted : List Emission
  /-- Milliseconds from the start to the outcome, without the time that shutting down took. -/
  elapsed : Nat

/-- Why a run stopped before the exit code of its child was known. -/
inductive Interruption where
  | drain (error : DrainError)
  | wait (error : IoError)
  | timedOut
  deriving DecidableEq

/-- The error that an interruption gives, with what was captured until then. -/
def Interruption.error (command : Command) (captures : Stream.Pair Capture) :
    Interruption → RunError
  | drain (.read _ source) => .io command.args source
  | drain (.overflow o) => .captureLimitExceeded command.args o.stream o.maxBytes
  | wait source => .io command.args source
  | timedOut =>
    .timeout command.args (command.timeout.getD .zero) captures.stdout.bytes captures.stderr.bytes

namespace Execution

/-- The word in the log about a child that could not be shut down. -/
def cleanupNote (pid : Pid) (e : CleanupError) : Emission :=
  .log ⟨.error, .runner, s!"Cleanup of process {showPid pid} failed: {e.message}", none⟩

/-- A run that was interrupted, once its child has been shut down. -/
def interrupted (config : RunnerConfig) (command : Command) (child : Child) (d : Drain)
    (calls : List Call) (why : Interruption) : Execution where
  outcome := .error (why.error command d.captures)
  calls := calls ++ [.shutdown config.gracePeriod]
  emitted :=
    d.emitted ++ match child.shutdown with | .ok () => [] | .error e => [cleanupNote child.pid e]
  elapsed := d.clock

/-- A run whose child exited. -/
def exited (command : Command) (d : Drain) (code : Int32) (time : Nat) : Execution where
  outcome :=
    .ofExit command.args code d.captures.stdout.bytes d.captures.stderr.bytes (.ofMillis time)
  calls := [.wait]
  emitted := d.emitted
  elapsed := time

/-- Wait for a child whose streams have ended. -/
def await (config : RunnerConfig) (command : Command) (child : Child) (deadline : Option Nat)
    (d : Drain) : Option Execution :=
  let time := d.clock + child.waitDelay
  let timeUp (d : Drain) := interrupted config command child d [.wait] .timedOut
  match child.waitAnswer, deadline with
  | .never, none => none
  | .never, some limit => some (timeUp { d with clock := limit })
  | .exits code, limit =>
    if within limit time then some (exited command d code time)
    else some (timeUp { d with clock := limit.getD time })
  | .fails error, limit =>
    if within limit time then
      some (interrupted config command child { d with clock := time } [.wait] (.wait error))
    else some (timeUp { d with clock := limit.getD time })

end Execution

/-- Run a child that has been started to its end.  Without a schedule its streams were not
taken.  Nothing comes back from a run that never ends. -/
def execute (config : RunnerConfig) (command : Command) (child : Child)
    (schedule : Option Schedule) : Option Execution :=
  let start :=
    match schedule with
    | some events => Drain.start command.live config.captureLimit events
    | none => Drain.idle command.live config.captureLimit
  let deadline := command.timeout.map Duration.ceilMillis
  match start.run config.chunkSize.toNat deadline with
  | (.ended, d) => Execution.await config command child deadline d
  | (.failed error, d) => some (Execution.interrupted config command child d [] (.drain error))
  | (.timedOut, d) => some (Execution.interrupted config command child d [] .timedOut)
  | (.hung, _) => none

end Outflow
