import Outflow.Host.Files
import Outflow.Host.Flow
import Outflow.Host.Signal
import Outflow.Stream
import Outflow.WaitStatus
import Std.Data.HashMap

/-!
# What processes share

Files, pipes, files that were opened, the output so far, and what the processes of a run can
find out about each other.  Time is counted in microseconds on one clock.
-/

namespace Outflow.Shell

/-! ### Channels -/

/-- What a channel was opened for. -/
inductive Access where
  | reads
  | writes
  | both
  deriving DecidableEq, Repr

/-- Whether a channel can be read from. -/
def Access.mayRead : Access → Bool
  | writes => false
  | _ => true

/-- Whether a channel can be written to. -/
def Access.mayWrite : Access → Bool
  | reads => false
  | _ => true

/-- Where a descriptor leads. -/
inductive Channel where
  | stream (s : Stream)
  | pipe (n : Nat) (access : Access)
  | file (n : Nat) (access : Access)
  | directory
  | null
  /-- A device without room. -/
  | full
  deriving DecidableEq, Repr

namespace Channel

/-- Whether a pipe can be read through a channel. -/
def readsPipe (n : Nat) : Channel → Bool
  | pipe m access => m == n && access.mayRead
  | _ => false

/-- Whether a pipe can be written into through a channel. -/
def writesPipe (n : Nat) : Channel → Bool
  | pipe m access => m == n && access.mayWrite
  | _ => false

end Channel

/-- The channels of a process, by descriptor. -/
abbrev Channels := List (Nat × Channel)

/-! ### Pipes -/

/-- A size that stands for no end. -/
def boundless : Nat := 1000000000000

/-- The number of octets, as far as that is a number. -/
def extent (flow : Flow) : Nat := if flow.ends then flow.bytes.length else boundless

/-- What is in a pipe. -/
structure Pipe where
  flow : Flow
  /-- What came after that, newest first. -/
  added : List Flow
  /-- How many octets can be read. -/
  size : Nat
  /-- Whether it stands for a file, in which a reader can go back. -/
  isSeekable : Bool
  /-- How often it was opened to be read from, and to be written to, if it has a name. -/
  readings : Nat
  writings : Nat

namespace Pipe

/-- How many octets a pipe has room for. -/
def capacity : Nat := 65536

/-- A pipe that holds something. -/
def holding (flow : Flow) (isSeekable : Bool) : Pipe := ⟨flow, [], extent flow, isSeekable, 0, 0⟩

/-- All that can be read from a pipe. -/
def content (p : Pipe) : Flow := p.added.foldr (fun flow before => before.append flow) p.flow

/-- A pipe with something more in it. -/
def push (p : Pipe) (flow : Flow) : Pipe :=
  { p with added := flow :: p.added, size := p.size + extent flow }

/-- A pipe with something else in it. -/
def replace (p : Pipe) (flow : Flow) : Pipe := { p with flow, added := [], size := extent flow }

end Pipe

/-! ### Files that were opened -/

/-- A file that was opened. -/
structure OpenFile where
  place : List String
  /-- Where reading and writing go on. -/
  position : Nat
  /-- Whether all is written at the end. -/
  appends : Bool
  /-- What it held when it was opened, which can be read even if it is gone. -/
  held : Bytes

/-! ### Processes, as others see them -/

/-- A piece of output of some process. -/
structure Output where
  micros : Nat
  pid : Nat
  stream : Stream
  bytes : Bytes
  deriving Repr

/-- A process that has ended and that its parent has not asked about yet. -/
structure Ended where
  pid : Nat
  parent : Nat
  group : Nat
  /-- When its parent can find out. -/
  since : Nat
  how : WaitStatus

/-- A signal on its way. -/
structure Letter where
  due : Nat
  target : Nat
  signal : Signal

/-- What the processes of a run share. -/
structure World where
  clock : Nat
  files : Files
  pipes : Std.HashMap Nat Pipe
  /-- The pipes that have a name, by their places. -/
  named : List (List String × Nat)
  opened : Std.HashMap Nat OpenFile
  /-- Newest first. -/
  outputs : List Output
  ended : List Ended
  mail : List Letter
  /-- The processes that are there, each with its group. -/
  living : List (Nat × Nat)
  /-- The pipes that other processes can read from, and write to. -/
  readable : List Nat
  writable : List Nat
  /-- The newest process, the newest pipe and the file that was opened last. -/
  lastPid : Nat
  lastPipe : Nat
  lastOpened : Nat

namespace World

/-- What is in a pipe. -/
def pipe (w : World) (n : Nat) : Pipe :=
  (w.pipes.get? n).getD (.holding .empty false)

/-- Replace what is in a pipe. -/
def setPipe (w : World) (n : Nat) (p : Pipe) : World :=
  { w with pipes := w.pipes.insert n p }

/-- A file that was opened. -/
def openFile (w : World) (n : Nat) : OpenFile :=
  (w.opened.get? n).getD ⟨[], 0, false, []⟩

/-- Replace what is known of a file that was opened. -/
def setOpenFile (w : World) (n : Nat) (f : OpenFile) : World :=
  { w with opened := w.opened.insert n f }

/-- What a file that was opened holds from where reading goes on. -/
def unread (w : World) (f : OpenFile) : Bytes :=
  (((w.files.node? f.place).bind FileNode.contents?).getD f.held).drop f.position

/-- Where the next octets go that are written into a file that was opened. -/
def writePosition (w : World) (n : Nat) : Nat :=
  let f := w.openFile n
  if f.appends then
    (((w.files.node? f.place).bind FileNode.contents?).map List.length).getD f.position
  else f.position

/-- Write octets into a file that was opened.  What was written beyond its end before has zeros
in front.  A file that is gone takes them as well. -/
def write (w : World) (n : Nat) (bytes : Bytes) : World :=
  let f := w.openFile n
  let start := w.writePosition n
  match w.files.node? f.place with
  | some (.file old mode) =>
    let before := if start = old.length then old
      else old.take start ++ List.replicate (start - old.length) 0
    let new := before ++ bytes ++ old.drop (start + bytes.length)
    { w.setOpenFile n { f with position := start + bytes.length } with
      files := w.files.put f.place (.file new mode) }
  | _ => w.setOpenFile n { f with position := start + bytes.length }

/-- Whether there is a process, or one that has not been asked about yet. -/
def hasProcess (w : World) (pid : Nat) : Bool :=
  w.living.any (·.1 = pid) || w.ended.any (·.pid = pid)

/-- The processes of a group. -/
def members (w : World) (group : Nat) : List Nat :=
  (w.living.filter (·.2 = group)).map (·.1) ++ (w.ended.filter (·.group = group)).map (·.pid)

end World

end Outflow.Shell
