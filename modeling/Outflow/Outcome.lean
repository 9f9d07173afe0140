import Outflow.Capture
import Outflow.IoError
import Outflow.Command
import Outflow.Text.Tail

/-!
# How a run ends

A run either completes with exit code zero, and its output is the result, or it ends in a
`RunError`.  An error says what went wrong, for which command, and, where the program got to
produce output, what that was.
-/

namespace Outflow

/-- A run that completed with exit code zero. -/
structure Completed where
  args : List String
  exitCode : Int32
  stdout : Bytes
  stderr : Bytes
  duration : Duration
  deriving DecidableEq

/-- Why a run did not complete with exit code zero. -/
inductive RunError where
  | invalidCommand (reason : String)
  /-- The program could not be started. -/
  | spawn (args : List String) (source : IoError)
  /-- The program ended with another exit code, or was ended by a signal. -/
  | commandFailed (args : List String) (exitCode : Int32) (stdout stderr : Bytes)
  /-- A stream could not be read, or the program could not be waited for. -/
  | io (args : List String) (source : IoError)
  | timeout (args : List String) (limit : Duration) (stdout stderr : Bytes)
  | captureLimitExceeded (args : List String) (stream : Stream) (maxBytes : UInt64)
  /-- A scripted run met a command that its script does not provide for. -/
  | unexpected (reason : String)
  deriving DecidableEq

/-- How a run ends. -/
abbrev Outcome := Except RunError Completed

namespace RunError

/-- How many lines of stderr a message quotes. -/
def quotedLines : Nat := 10

/-- The last lines of stderr, as a message quotes them. -/
def stderrQuote (stderr : Bytes) : String :=
  let tail := stderr.tailLines quotedLines
  if tail = "" then "" else "\nstderr:\n" ++ tail

/-- The wording of a run error. -/
def message : RunError → String
  | invalidCommand reason => s!"Invalid command: {reason}"
  | spawn args source => s!"Failed to spawn \x60{Text.shellJoin args}\x60: {source.message}"
  | commandFailed args code _ stderr =>
    s!"Command \x60{Text.shellJoin args}\x60 exited with code {code}" ++ stderrQuote stderr
  | io args source => s!"IO error while running \x60{Text.shellJoin args}\x60: {source.message}"
  | timeout args limit _ _ =>
    s!"Command \x60{Text.shellJoin args}\x60 timed out after {limit.brief}"
  | captureLimitExceeded args stream maxBytes =>
    s!"{stream.name} of \x60{Text.shellJoin args}\x60 exceeded the capture limit of " ++
      s!"{maxBytes} bytes"
  | unexpected reason => s!"Mock expectation not met: {reason}"

/-- The exit code of a program that ran to its end. -/
def exitCode? : RunError → Option Int32
  | commandFailed _ code _ _ => some code
  | _ => none

/-- What was captured before the error. -/
def captured? : RunError → Option (Bytes × Bytes)
  | commandFailed _ _ stdout stderr => some (stdout, stderr)
  | timeout _ _ stdout stderr => some (stdout, stderr)
  | _ => none

/-- The argument vector of the command that failed. -/
def args : RunError → List String
  | invalidCommand _ => []
  | unexpected _ => []
  | spawn args _ => args
  | commandFailed args _ _ _ => args
  | io args _ => args
  | timeout args _ _ _ => args
  | captureLimitExceeded args _ _ => args

/-- The error behind this one. -/
def source? : RunError → Option IoError
  | spawn _ source => some source
  | io _ source => some source
  | _ => none

end RunError

namespace Outcome

/-- The outcome of a program that ended with an exit code: only zero is a success. -/
def ofExit (args : List String) (code : Int32) (stdout stderr : Bytes) (duration : Duration) :
    Outcome :=
  if code = 0 then .ok ⟨args, code, stdout, stderr, duration⟩
  else .error (.commandFailed args code stdout stderr)

/-- An outcome apart from the time it took. -/
def untimed : Outcome → Outcome
  | .ok done => .ok { done with duration := .zero }
  | .error e => .error e

end Outcome

end Outflow
