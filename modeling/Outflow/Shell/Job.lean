import Outflow.Host.Signal
import Outflow.WaitStatus

/-!
# The jobs of a shell

The commands that a shell has started beside itself, each with its processes.  A job keeps its
number until it has been waited for or told, and its number is free again after that.
-/

namespace Outflow.Shell

/-- The status that a shell gives to a way to end. -/
def statusOf : WaitStatus → Nat
  | .exited code => code % 256
  | .signalled signal => 128 + signal
  | .stopped => 148

/-- A command that runs beside its shell. -/
structure Job where
  number : Nat
  /-- Its processes, and how they ended. -/
  parts : List (Nat × Option WaitStatus)
  /-- It has been waited for. -/
  isSeen : Bool

namespace Job

/-- Whether no process of a job runs any more. -/
def isDone (j : Job) : Bool := j.parts.all (·.2.isSome)

/-- The last process of a job, by which it is known. -/
def last? (j : Job) : Option Nat := j.parts.getLast?.map (·.1)

/-- How a job ended, which is how its last process did. -/
def outcome? (j : Job) : Option WaitStatus := j.parts.getLast?.bind (·.2)

/-- Note how processes ended. -/
def note (ended : List (Nat × WaitStatus)) (j : Job) : Job :=
  { j with parts := j.parts.map fun (pid, how) =>
      (pid, how.orElse fun () => (ended.find? (·.1 = pid)).map (·.2)) }

/-- The number of the next job among some, from a number on, and the jobs that are left.  A job
that has ended and been waited for makes room. -/
def allotFrom (jobs : List Job) (number : Nat) : (fuel : Nat) → Nat × List Job
  | 0 => (number, jobs)
  | fuel + 1 =>
    match jobs.find? (·.number = number) with
    | none => (number, jobs)
    | some j =>
      if j.isDone && j.isSeen then (number, jobs.filter (·.number ≠ number))
      else allotFrom jobs (number + 1) fuel

/-- The number of the next job among some, and the jobs that are left. -/
def allot (jobs : List Job) : Nat × List Job := allotFrom jobs 1 jobs.length

/-- What is told about a job. -/
inductive Detail where
  | plain
  /-- With the processes. -/
  | long
  /-- Only the first process. -/
  | leader
  deriving DecidableEq

/-- The state of a job in words. -/
def state (j : Job) : String :=
  if !j.isDone then "Running"
  else
    match j.outcome? with
    | some (.exited 0) => "Done"
    | some (.exited n) => s!"Done({n})"
    | some (.signalled signal) => Signal.obituary signal
    | _ => ""

/-- A line with blanks up to the column in which commands are told, which are not known. -/
def padded (line : String) (column : Nat) : String := line ++ "".pushn ' ' (max 1 (33 - column))

/-- What a shell tells about a job; `mark` stands behind its number. -/
def text (detail : Detail) (mark : Char) (j : Job) : String :=
  let front := s!"[{j.number}] {String.singleton mark} "
  let pids := j.parts.map fun (pid, _) => toString pid
  match detail with
  | .leader => pids.headD "" ++ "\n"
  | .plain =>
    let line := front ++ j.state
    padded line line.length ++ String.join ((j.parts.drop 1).map fun _ => " | ") ++ "\n"
  | .long =>
    let line := front ++ pids.headD "" ++ " " ++ j.state
    let further := (pids.drop 1).map fun pid =>
      let line := " |\n" ++ "".pushn ' ' (max 1 front.length) ++ pid ++ " "
      padded line (line.length - 3)
    padded line line.length ++ String.join further ++ "\n"

/-- The mark of a job among others, newest first. -/
def mark (jobs : List Job) (j : Job) : Char :=
  if (jobs.head?).any (·.number = j.number) then '+'
  else if (jobs[1]?).any (·.number = j.number) then '-'
  else ' '

/-- The job among some, newest first, that a text names; an error says why there is none. -/
def named (jobs : List Job) (text : String) : Except String Job :=
  let found (fault : String) : Option Job → Except String Job
    | some j => .ok j
    | none => .error fault
  let cs := text.toList.drop 1
  let fault := s!"No such job: {text}"
  if cs.isEmpty || cs = ['+'] || cs = ['%'] then found "No current job" jobs.head?
  else if cs = ['-'] then found "No previous job" jobs[1]?
  else if cs.all Char.isDigit then
    found fault (jobs.find? fun j => some j.number = (String.ofList cs).toNat?)
  else .error fault

end Job

end Outflow.Shell
