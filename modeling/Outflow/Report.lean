import Outflow.Json
import Outflow.Outcome
import Outflow.Writer

/-!
# Reports

What a user gets to see of a finished run: the exit status of this program, the text that
replays the output and describes a failure, and the JSON report.

The text is a list of pieces for the two streams.  In every case what goes to stdout comes
first, so a reader of the pieces of one stream can forget the other.
-/

namespace Outflow

/-- How a run ended, in one word. -/
inductive RunStatus where
  | success
  | failed
  | timedOut
  | error
  deriving DecidableEq, Repr

/-- The word for a status. -/
def RunStatus.name : RunStatus → String
  | success => "success"
  | failed => "failed"
  | timedOut => "timed_out"
  | error => "error"

/-- A finished run as it is reported. -/
structure Report where
  status : RunStatus
  command : List String
  exitCode : Option Int32
  stdout : Option String
  stderr : Option String
  durationMs : Option UInt64
  error : Option String
  deriving DecidableEq, Repr

namespace RunError

/-- The word for an error. -/
def status : RunError → RunStatus
  | commandFailed .. => .failed
  | timeout .. => .timedOut
  | _ => .error

end RunError

namespace Report

/-- The report of an outcome. -/
def ofOutcome : Outcome → Report
  | .ok done =>
    { status := .success
      command := done.args
      exitCode := some done.exitCode
      stdout := some done.stdout.text
      stderr := some done.stderr.text
      durationMs := some (UInt64.ofNat done.duration.toMillis)
      error := none }
  | .error e =>
    { status := e.status
      command := e.args
      exitCode := e.exitCode?
      stdout := e.captured?.map (·.1.text)
      stderr := e.captured?.map (·.2.text)
      durationMs := none
      error := some e.message }

/-- The members of a report.  What is not known is left out. -/
def members (r : Report) : List (String × Json) :=
  [("status", .string r.status.name), ("command", .strings r.command)] ++
  (r.exitCode.map fun code => ("exit_code", Json.int code.toInt)).toList ++
  (r.stdout.map fun text => ("stdout", Json.string text)).toList ++
  (r.stderr.map fun text => ("stderr", Json.string text)).toList ++
  (r.durationMs.map fun ms => ("duration_ms", Json.int ms.toNat)).toList ++
  (r.error.map fun text => ("error", Json.string text)).toList

/-- The report as a JSON value. -/
def toJson (r : Report) : Json := .object r.members

end Report

namespace Outcome

/-- The negative of a code.  The least code has none in 32 bits; the greatest stands for it. -/
def saturatingNeg (code : Int32) : Int32 :=
  if code = Int32.minValue then Int32.maxValue else -code

/-- The exit status after a child that failed: its code if that fits, 128 and the number of the
signal that ended it, and 1 otherwise. -/
def statusOfCode (code : Int32) : Int32 :=
  if 1 ≤ code ∧ code ≤ 255 then code
  else if code < 0 then 128 + min (saturatingNeg code) 127
  else 1

/-- The exit status of this program after a run: what the code of the child makes it, 124 after a
timeout, 127 for a program that was not found and 126 for one that could not be started. -/
def exitStatus : Outcome → Int
  | .ok _ => 0
  | .error (.commandFailed _ code _ _) => (statusOfCode code).toInt
  | .error (.timeout ..) => 124
  | .error (.spawn _ source) => if source.kind = .notFound then 127 else 126
  | .error _ => 1

/-- How many lines of stderr are shown when a command fails. -/
def shownLines : Nat := 20

/-- A line of text, in octets. -/
def textLine (s : String) : Bytes := Bytes.ofText s ++ [Bytes.newline]

/-- The text report in pieces.  `stderrLogged` says that the lines of stderr have already gone
out through the log, so that they are not replayed. -/
def textPieces (outcome : Outcome) (stderrLogged : Bool) : List (Stream × Bytes) :=
  let replay (stdout stderr : Bytes) : List (Stream × Bytes) :=
    (.stdout, stdout) :: if stderrLogged then [] else [(.stderr, stderr)]
  match outcome with
  | .ok done => replay done.stdout done.stderr
  | .error (.commandFailed args code stdout stderr) =>
    let tail := stderr.tailLines shownLines
    [(.stdout, stdout),
      (.stderr, textLine s!"Error: \x60{Text.shellJoin args}\x60 exited with code {code}")] ++
    if tail = "" then [] else [(.stderr, textLine tail)]
  | .error e =>
    (match e.captured? with
      | some (stdout, stderr) => replay stdout stderr
      | none => []) ++
    [(.stderr, textLine s!"Error: {e.message}")]

/-- Write some pieces in order, until one does not fit its writer. -/
def writePieces (writers : Stream.Pair Writer) :
    List (Stream × Bytes) → Stream.Pair Writer × Except IoError Unit
  | [] => (writers, .ok ())
  | (s, bytes) :: rest =>
    match (writers.get s).write bytes with
    | (w, .ok ()) => writePieces (writers.set s w) rest
    | (w, .error e) => (writers.set s w, .error e)

/-- Flush both writers, stdout first; if that fails stderr is left alone. -/
def flushBoth (writers : Stream.Pair Writer) : Stream.Pair Writer × Except IoError Unit :=
  match writers.stdout.flush with
  | (out, .error e) => ({ writers with stdout := out }, .error e)
  | (out, .ok ()) =>
    let (err, result) := writers.stderr.flush
    (⟨out, err⟩, result)

/-- Write the text report. -/
def writeText (outcome : Outcome) (stderrLogged : Bool) (writers : Stream.Pair Writer) :
    Stream.Pair Writer × Except IoError Unit :=
  match writePieces writers (outcome.textPieces stderrLogged) with
  | (writers, .ok ()) => flushBoth writers
  | (writers, .error e) => (writers, .error e)

/-- The JSON report: one document and a newline. -/
def jsonText (outcome : Outcome) : String := (Report.ofOutcome outcome).toJson.pretty ++ "\n"

/-- Write the JSON report. -/
def writeJson (outcome : Outcome) (writer : Writer) : Writer × Except IoError Unit :=
  writer.write (Bytes.ofText outcome.jsonText)

end Outcome

end Outflow
