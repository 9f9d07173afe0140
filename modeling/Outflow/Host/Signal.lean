/-!
# Signals

Signals by number, their names, and what they do to a process that has made no arrangement.
-/

namespace Outflow

/-- A signal, by its number. -/
abbrev Signal := Nat

namespace Signal

/-- The request to end. -/
def term : Signal := 15

/-- The end, which no process can avoid. -/
def kill : Signal := 9

/-- The signal of a writer whose reader has gone. -/
def pipe : Signal := 13

/-- The word that a child has ended. -/
def child : Signal := 17

/-- The request to go on. -/
def cont : Signal := 18

/-- The stop, which no process can avoid. -/
def stop : Signal := 19

/-- The signal of a process that makes a file too large. -/
def fileSize : Signal := 25

/-- The names of the signals, from number one on; one of them has no name but its number. -/
def names : List String :=
  ["HUP", "INT", "QUIT", "ILL", "TRAP", "ABRT", "BUS", "FPE", "KILL", "USR1", "SEGV", "USR2",
   "PIPE", "ALRM", "TERM", "16", "CHLD", "CONT", "STOP", "TSTP", "TTIN", "TTOU", "URG", "XCPU",
   "XFSZ", "VTALRM", "PROF", "WINCH", "IO", "PWR", "SYS"]

/-- The largest number of a signal. -/
def last : Signal := 64

/-- The name of a signal. -/
def name (s : Signal) : String :=
  if s = 0 then "EXIT"
  else if s ≤ 31 then (names[s - 1]?).getD ""
  else if s < 34 then toString s
  else if s = 34 then "RTMIN"
  else if s < 50 then s!"RTMIN+{s - 34}"
  else if s < last then s!"RTMAX-{last - s}"
  else "RTMAX"

/-- The signal of a name in any case, or of a number in decimal. -/
def ofName? (text : String) : Option Signal :=
  if text ≠ "" && text.toList.all Char.isDigit then
    text.toNat?.bind fun n => if n ≤ last then some n else none
  else ((List.range (last + 1)).find? fun s => s ≠ 0 && name s = text.toUpper)

/-- Signals that do nothing unless a process asks for them.  Those with which a terminal stops
processes are among them, as no child has a terminal. -/
def ignoredByDefault (s : Signal) : Bool :=
  [0, child, cont, 20, 21, 22, 23, 28].contains s

/-- What is said about a process that a signal ended, from number one on. -/
def obituaries : List String :=
  ["Hangup", "Interrupt", "Quit", "Illegal instruction", "Trace/breakpoint trap", "Aborted",
   "Bus error", "Floating point exception", "Killed", "User defined signal 1",
   "Segmentation fault", "User defined signal 2", "Broken pipe", "Alarm clock", "Terminated",
   "Stack fault", "Child exited", "Continued", "Stopped (signal)", "Stopped",
   "Stopped (tty input)", "Stopped (tty output)", "Urgent I/O condition",
   "CPU time limit exceeded", "File size limit exceeded", "Virtual timer expired",
   "Profiling timer expired", "Window changed", "I/O possible", "Power failure",
   "Bad system call"]

/-- What is said about a process that a signal ended. -/
def obituary (s : Signal) : String :=
  match obituaries[s - 1]? with
  | some text => text
  | none => if 34 ≤ s && s ≤ last then s!"Real-time signal {s - 34}" else s!"Unknown signal {s}"

end Signal

end Outflow
