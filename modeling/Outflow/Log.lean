import Outflow.Stream

/-!
# Log entries

What a run reports beside its result.  An entry has a level, the part of the program that
wrote it, and a message; entries for forwarded output also name the process they came from.

`LogEntry.line` lays an entry out.  How much of it is told depends on the `Layout`.
-/

namespace Outflow

/-- How much an entry matters. -/
inductive Level where
  | error | warn | info | debug | trace
  deriving DecidableEq, Repr

namespace Level

/-- The name of a level in a log line. -/
def name : Level → String
  | error => "ERROR"
  | warn => "WARN"
  | info => "INFO"
  | debug => "DEBUG"
  | trace => "TRACE"

/-- The place of a level: the more it tells, the higher. -/
def detail : Level → Nat
  | error => 1
  | warn => 2
  | info => 3
  | debug => 4
  | trace => 5

end Level

/-- The part of the program that writes an entry. -/
inductive LogSource where
  /-- Output of the child, forwarded line by line. -/
  | output
  | capture
  | runner
  | process
  | fatal
  deriving DecidableEq, Repr

/-- The name under which a part of the program writes its entries. -/
def LogSource.target : LogSource → String
  | output => "procdrain::output"
  | capture => "procdrain::subprocess::line_buffer"
  | runner => "procdrain::subprocess::runner"
  | process => "procdrain::subprocess::process"
  | fatal => "procdrain::app::error_handling"

/-- The place in a part of the program where it writes the entries of a level. -/
def LogSource.place : LogSource → Level → Nat
  | output, .debug => 32
  | output, _ => 35
  | capture, _ => 102
  | runner, .error => 181
  | runner, _ => 121
  | process, .warn => 148
  | process, _ => 28
  | fatal, _ => 15

/-- The number of a process, as far as it is known. -/
abbrev Pid := Option UInt32

/-- The spelling of a process number in logs. -/
def showPid : Pid → String
  | none => "None"
  | some pid => s!"Some({pid})"

/-- One entry of the log. -/
structure LogEntry where
  level : Level
  source : LogSource
  message : String
  /-- The process whose output the entry forwards. -/
  pid : Option Pid
  deriving DecidableEq, Repr

namespace LogEntry

/-- A line of output, forwarded: what came on stderr matters more. -/
def forwarded (pid : Pid) (s : Stream) (line : String) : LogEntry :=
  ⟨match s with | .stdout => .debug | .stderr => .warn, .output, line, some pid⟩

/-- A character of a message, made harmless for a terminal: characters that terminals take for
commands are written as escapes. -/
def showChar (c : Char) : String :=
  match c with
  | '\x07' => "\\x07"
  | '\x08' => "\\x08"
  | '\x0c' => "\\x0c"
  | '\x1b' => "\\x1b"
  | '\x7f' => "\\x7f"
  | c =>
    if 0x80 ≤ c.toNat ∧ c.toNat ≤ 0x9f then
      "\\u\x7b" ++ String.ofList (Nat.toDigits 16 c.toNat) ++ "\x7d"
    else String.singleton c

/-- A message as it is shown. -/
def showMessage (message : String) : String := String.join (message.toList.map showChar)

/-- How an entry is laid out. -/
structure Layout where
  /-- Whether the part of the program that wrote an entry is named. -/
  withTarget : Bool
  /-- Whether the thread and the place that wrote an entry are named. -/
  withPlace : Bool
  /-- What stands for the time. -/
  stamp : String

/-- The thread that writes all entries. -/
def thread : String := "ThreadId(01)"

/-- The line that is written for an entry. -/
def line (layout : Layout) (e : LogEntry) : String :=
  layout.stamp ++ (if e.level.name.length < 5 then "  " else " ") ++ e.level.name ++ " " ++
  (if layout.withPlace then thread ++ " " else "") ++
  (if layout.withTarget then e.source.target ++ ": " else "") ++
  (if layout.withPlace then toString (e.source.place e.level) ++ ": " else "") ++
  showMessage e.message ++
  (match e.pid with | none => "" | some pid => " pid=" ++ showPid pid) ++ "\n"

/-- The names of the fields of an entry. -/
def fieldNames (e : LogEntry) : List String := "message" :: if e.pid.isSome then ["pid"] else []

end LogEntry

end Outflow
