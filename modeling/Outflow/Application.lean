import Outflow.Config.File
import Outflow.Help
import Outflow.Report
import Outflow.Run

/-!
# The program

What the program does with its arguments: it shows its settings, or runs a command and reports
the result.  All that it writes and its exit status are its `Answer`.

The answer depends on the arguments and on what the program finds `Outside`: variables, files,
children that can be started, and streams to write to.
-/

namespace Outflow

/-- What the program finds outside itself. -/
structure Outside where
  /-- The value of a variable. -/
  var? : RunnerConfig.Lookup
  /-- The octets of a file. -/
  file : String → Except IoError Bytes
  /-- The entries of the log that a filter shows, if it can be read. -/
  filter? : String → Option (LogEntry → Bool)
  /-- What stands for the time in the log. -/
  stamp : String
  /-- Start a command. -/
  start : Command → Except IoError Started
  /-- Where reports are written to. -/
  writers : Stream.Pair Writer

/-- Run a command.  Nothing comes back from a run that never ends. -/
def Outside.run (out : Outside) (config : RunnerConfig) (command : Command) : Option Run :=
  Run.ofStart config command (out.start command)

/-- What the program leaves behind. -/
structure Answer where
  status : Nat
  stdout : Bytes
  stderr : Bytes
  deriving DecidableEq, Repr

/-- A failure of the program itself. -/
inductive Failure where
  /-- The settings could not be had; the file they were to come from is named. -/
  | settings (path : Option String) (error : ConfigError)
  | command (error : RunError)
  /-- The report could not be written. -/
  | report (format : OutputFormat) (error : IoError)
  deriving DecidableEq

namespace Failure

/-- The exit status after a failure to get at the settings. -/
def settingsStatus : Nat := 78

/-- The exit status after any other failure. -/
def generalStatus : Nat := 1

/-- The exit status after a failure. -/
def status : Failure → Nat
  | settings .. => settingsStatus
  | command _ => generalStatus
  | report .. => generalStatus

/-- The failure and what caused it, one after the other. -/
def chain : Failure → List String
  | settings path e =>
    (match path with
      | some path => s!"Failed to load config from {path}"
      | none => "Invalid runner configuration") :: e.message :: e.source?.toList
  | command e => e.message :: (e.source?.map IoError.message).toList
  | report .text e => ["Failed to write command output", e.message]
  | report .json e => [e.message]

/-- The failure with its causes in one line. -/
def line (f : Failure) : String := ": ".intercalate f.chain

/-- Some texts with their numbers, from a first number on. -/
def numbered (n : Nat) : List String → String
  | [] => ""
  | s :: rest => s!"  {n}: {s}\n" ++ numbered (n + 1) rest

/-- What a user is told: with more detail wanted, each cause stands in a line of its own. -/
def text (f : Failure) (verbosity : Nat) : String :=
  if verbosity = 0 then s!"Error: {f.line}\n"
  else "Error: " ++ f.chain.headD "" ++ "\n\nError chain:\n" ++ numbered 0 f.chain

/-- The word in the log about a failure. -/
def note (f : Failure) : LogEntry := ⟨.error, .fatal, s!"Fatal error: {f.line}", none⟩

end Failure

/-- How the log is shown. -/
structure LogView where
  shows : LogEntry → Bool
  layout : LogEntry.Layout

/-- The text of the entries that are shown. -/
def LogView.text (v : LogView) (entries : List LogEntry) : String :=
  String.join ((entries.filter v.shows).map (·.line v.layout))

namespace Application

/-- The variable that holds a filter for the log. -/
def filterVar : String := "RUST_LOG"

/-- The filter for the log that holds unless the user gives one: more verbosity shows more, and
forwarded output is shown in any case when it was asked for. -/
def defaultFilter (verbosity : Nat) (live : Bool) : String :=
  match verbosity with
  | 0 => if live then s!"warn,{LogSource.output.target}=debug" else "warn"
  | 1 => "debug"
  | 2 => "trace"
  | _ => "trace,tokio=debug,mio=debug"

/-- How the log is shown.  A filter in the environment that can be read comes first; the parts of
the program are named where more detail is wanted, and their places with the most. -/
def logView (out : Outside) (verbosity : Nat) (live : Bool) : LogView where
  shows :=
    ((out.var? filterVar).bind out.filter?).getD
      ((out.filter? (defaultFilter verbosity live)).getD fun _ => false)
  layout := ⟨decide (2 ≤ verbosity) || live, decide (3 ≤ verbosity), out.stamp⟩

/-- The settings from a file, or from the environment alone. -/
def settings (out : Outside) (path : Option String) : Except Failure RunnerConfig :=
  let result := match path with
    | some path => RunnerConfig.load path (out.file path) out.var?
    | none => RunnerConfig.ofEnv out.var?
  match result with
  | .ok config => .ok config
  | .error e => .error (.settings path e)

/-- Carry out a request for the settings. -/
def showSettings (out : Outside) (path : Option String) : Except Failure Answer :=
  (settings out path).map fun config => ⟨0, Bytes.ofText config.render, []⟩

/-- What a user is told about a failure, after what has been written before it. -/
def fail (view : LogView) (verbosity : Nat) (written : Stream.Pair Bytes) (f : Failure) : Answer :=
  ⟨f.status, written.stdout,
    written.stderr ++ Bytes.ofText (view.text [f.note] ++ f.text verbosity)⟩

/-- Write the report of an outcome. -/
def writeReport (o : RunOptions) (outcome : Outcome) (writers : Stream.Pair Writer) :
    Stream.Pair Writer × Except IoError Unit :=
  match o.format with
  | .text => outcome.writeText o.live writers
  | .json =>
    let (stdout, result) := outcome.writeJson writers.stdout
    ({ writers with stdout }, result)

/-- The answer to a run.  In what is written to stderr, the log comes first. -/
def report (out : Outside) (o : RunOptions) (view : LogView) (verbosity : Nat) (r : Run) : Answer :=
  let (writers, result) := writeReport o r.outcome out.writers
  let logs := view.text (Emission.forwardedLogs r.pid r.emitted)
  let written : Stream.Pair Bytes :=
    ⟨r.inherited.stdout ++ writers.stdout.received,
      Bytes.ofText logs ++ r.inherited.stderr ++ writers.stderr.received⟩
  match result with
  | .ok () => ⟨r.outcome.exitStatus.toNat, written.stdout, written.stderr⟩
  | .error e => fail view verbosity written (.report o.format e)

/-- Carry out a run.  Nothing comes back from a run that never ends. -/
def run (out : Outside) (o : RunOptions) (view : LogView) (verbosity : Nat) :
    Except Failure (Option Answer) :=
  match settings out o.config with
  | .error e => .error e
  | .ok config =>
    match o.toCommand with
    | .error e => .error (.command e)
    | .ok command => .ok ((out.run config command).map (report out o view verbosity))

/-- Carry out what a command line asks for. -/
def carryOut (out : Outside) (c : CommandLine) : Option Answer :=
  match c.request with
  | .config path =>
    match showSettings out path with
    | .ok answer => some answer
    | .error f => some (fail (logView out c.verbosity false) c.verbosity ⟨[], []⟩ f)
  | .run o =>
    let view := logView out c.verbosity o.live
    match run out o view c.verbosity with
    | .ok answer => answer
    | .error f => some (fail view c.verbosity ⟨[], []⟩ f)

/-- Answer a command line.  Nothing comes back from a run that never ends. -/
def answer (out : Outside) (args : List String) : Option Answer :=
  match CommandLine.ofArgs args with
  | .error e =>
    some ⟨e.exitStatus, Bytes.ofText e.stdoutText, Bytes.ofText e.stderrText⟩
  | .ok c => carryOut out c

end Application

end Outflow
