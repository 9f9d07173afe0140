import Outflow.Shell.Session

/-!
# What processes do

The steps out of which commands are made: waiting, starting processes, writing and reading.  A
process runs up to a point where it has to wait or where it becomes two; there it stands as a
`Step` that is resumed with what has become of the world in between.  Whatever a process does
between two such points happens at one moment.
-/

namespace Outflow.Shell

/-- Why a command does not just go on to the next. -/
inductive Jump where
  | exit (status : Nat)
  /-- A fault that has been complained about. -/
  | fault
  | return (status : Nat)
  | break (loops : Nat)
  | continue (loops : Nat)
  /-- The process is gone. -/
  | ended (how : WaitStatus)
  /-- The process goes on for longer than anything looks at it. -/
  | unending

/-- What a process can wait for. -/
inductive Awaited where
  | moment (t : Nat)
  /-- So many octets in a pipe, or that nobody can write into it any more. -/
  | input (pipe size : Nat)
  /-- Room in a pipe, or that nobody can read from it any more. -/
  | room (pipe : Nat)
  /-- That a pipe with a name was opened to be read from, or written to, more than so often. -/
  | reading (pipe count : Nat)
  | writing (pipe count : Nat)
  /-- A child that has ended. -/
  | child
  /-- A signal that there is an action for. -/
  | signal

/-- Where a process stands. -/
inductive Step (α : Type) where
  | done (value : α) (s : Session)
  | jumps (jump : Jump) (s : Session)
  /-- It waits for one of some things. -/
  | waits (awaited : List Awaited) (s : Session) (resume : Session → Step α)
  /-- It becomes two.  The old process is told the number of the new one. -/
  | forks (s : Session) (resume : Option Nat → Session → Step α)

namespace Step

/-- Go on in one of two ways from where a process finishes. -/
def andThen {α β : Type} (x : Step α) (next : α → Session → Step β)
    (caught : Jump → Session → Step β) : Step β :=
  match x with
  | done a s => next a s
  | jumps j s => caught j s
  | waits awaited s resume => waits awaited s fun s => (resume s).andThen next caught
  | forks s resume => forks s fun pid s => (resume pid s).andThen next caught

/-- What a process knows where it stands. -/
def session {α : Type} : Step α → Session
  | done _ s => s
  | jumps _ s => s
  | waits _ s _ => s
  | forks s _ => s

end Step

/-- Something that a process does. -/
def Act (α : Type) : Type := Session → Step α

namespace Act

instance : Monad Act where
  pure a := fun s => .done a s
  bind x f := fun s => (x s).andThen f .jumps

instance : MonadStateOf Session Act where
  get := fun s => .done s s
  set s := fun _ => .done () s
  modifyGet f := fun s =>
    let (a, s) := f s
    .done a s

instance : MonadExceptOf Jump Act where
  throw j := fun s => .jumps j s
  tryCatch x f := fun s => (x s).andThen .done f

/-- Do something in a changed session, which is changed once more however it comes to an end. -/
def within {α : Type} (enter leave : Session → Session) (body : Act α) : Act α := fun s =>
  (body (enter s)).andThen (fun a t => .done a (leave t)) (fun j t => .jumps j (leave t))

end Act

/-! ### Time -/

/-- The time up to which processes are followed. -/
def horizon : Nat := 60000000

/-- The microseconds that a command inside the shell takes. -/
def builtinTime : Nat := 10

/-- The microseconds that it takes to start a process. -/
def forkTime : Nat := 70

/-- The microseconds after which a new process begins. -/
def birthTime : Nat := 100

/-- The microseconds after which a new process begins whose parent stands still for it. -/
def shortBirthTime : Nat := 20

/-- Wait for one of some things. -/
def waitFor (awaited : List Awaited) : Act Unit := fun s => .waits awaited s (.done ())

/-- Let time pass. -/
def pass (micros : Nat) : Act Unit := do
  waitFor [.moment ((← get).world.clock + micros)]

/-- Change what the processes share. -/
def modifyWorld (f : World → World) : Act Unit := modify fun s => { s with world := f s.world }

/-! ### Pipes and open files -/

/-- Where a descriptor of the process leads. -/
def channel? (fd : Nat) : Act (Option Channel) :=
  return ((← get).channels.find? (·.1 = fd)).map (·.2)

/-- A new pipe with something in it. -/
def newPipe (flow : Flow) (isSeekable : Bool) : Act Nat := do
  let n := (← get).world.lastPipe + 1
  modifyWorld fun w => { w.setPipe n (.holding flow isSeekable) with lastPipe := n }
  return n

/-- Open a file. -/
def openFile (place : List String) (appends : Bool) : Act Nat := do
  let w := (← get).world
  let n := w.lastOpened + 1
  let f : OpenFile := ⟨place, 0, appends, []⟩
  modifyWorld fun w =>
    { w.setOpenFile n { f with held := w.unread f } with lastOpened := n }
  return n

/-- Whether anybody can read from a pipe. -/
def Session.hasReader (s : Session) (n : Nat) : Bool :=
  s.world.readable.contains n || s.held.any (·.readsPipe n)

/-- Whether anybody can write into a pipe. -/
def Session.hasWriter (s : Session) (n : Nat) : Bool :=
  s.world.writable.contains n || s.held.any (·.writesPipe n)

/-- Do something while some channels are put by. -/
def keeping {α : Type} (channels : List Channel) (body : Act α) : Act α := fun s =>
  body.within (fun s => { s with kept := channels ++ s.kept })
    (fun t => { t with kept := s.kept }) s

/-! ### Output -/

/-- A signal to the process itself that goes with a failure. -/
def strike (signal : Signal) (error : IoError) : Act (Option IoError) := do
  let s ← get
  match s.disposition signal with
  | .ignored => return some error
  | .acted => do
    set { s with pending := s.pending ++ [signal] }
    return some error
  | _ => throw (.ended (.signalled signal))

/-- Write into a pipe, which may have to be emptied before the writer goes on. -/
def deposit (n : Nat) (flow : Flow) : Act (Option IoError) := do
  if (← get).hasReader n then
    modifyWorld fun w => w.setPipe n ((w.pipe n).push flow)
    if ((← get).world.pipe n).size ≤ Pipe.capacity then return none
    else
      waitFor [.room n]
      let s ← get
      if Pipe.capacity < (s.world.pipe n).size then strike Signal.pipe (.os 32) else return none
  else strike Signal.pipe (.os 32)

/-- Write into a file that was opened, as far as it may grow. -/
def writeFile (n : Nat) (bytes : Bytes) : Act (Option IoError) := do
  let s ← get
  let limit := (Limit.find s.limits 'f').soft
  let room := limit - s.world.writePosition n
  if limit = Limit.unlimited || bytes.length ≤ room then
    modifyWorld (·.write n bytes)
    return none
  else
    if 0 < room then modifyWorld (·.write n (bytes.take room))
    strike Signal.fileSize (.os 27)

/-- Write to a descriptor.  Gives the error if that cannot be done. -/
def emit (fd : Nat) (bytes : Bytes) : Act (Option IoError) := do
  if bytes.isEmpty then return none
  else
    match ← channel? fd with
    | none => return some (.os 9)
    | some .directory => return some (.os 9)
    | some .full => return some (.os 28)
    | some .null => return none
    | some (.stream s) =>
      let pid := (← get).pid
      modifyWorld fun w => { w with outputs := ⟨w.clock, pid, s, bytes⟩ :: w.outputs }
      return none
    | some (.pipe n access) =>
      if access.mayWrite then deposit n (.ofBytes bytes) else return some (.os 9)
    | some (.file n access) => if access.mayWrite then writeFile n bytes else return some (.os 9)

/-- Write a text, whether or not that can be done. -/
def say (fd : Nat) (text : String) : Act Unit := do
  let _ ← emit fd (Bytes.ofRaw text)

/-- How much of an endless output is looked at. -/
def endlessWindow : Nat := 262144

/-- Write something that may have no end.  An endless writer goes on until its reader is gone,
and a pipe takes all of it at once. -/
def emitFlow (fd : Nat) (flow : Flow) : Act (Option IoError) := do
  if flow.ends then emit fd flow.bytes
  else
    match ← channel? fd with
    | some (.pipe n access) => if access.mayWrite then deposit n flow else return some (.os 9)
    | some .full => return some (.os 28)
    | some .directory => return some (.os 9)
    | none => return some (.os 9)
    | _ =>
      match ← emit fd (flow.take endlessWindow) with
      | some e => return some e
      | none =>
        waitFor []
        return none

/-- Complain. -/
def complain (message : String) : Act Unit := do
  say 2 ((← get).complaintHead ++ message ++ "\n")

/-- Set the status. -/
def setStatus (n : Nat) : Act Unit := modify fun s => { s with status := n }

/-- Complain and give up what is being done. -/
def fail {α : Type} (message : String) : Act α := do
  complain message
  setStatus 2
  throw .fault

/-! ### Input -/

/-- What can be read from a descriptor at a moment. -/
structure Supply where
  /-- What is there, or why it cannot be read. -/
  flow : Except IoError Flow
  /-- Whether a reader can go back in it. -/
  isSeekable : Bool
  /-- Nothing more will come. -/
  isOver : Bool

/-- What can be read from a descriptor. -/
def supply (fd : Nat) : Act Supply := do
  let s ← get
  match ← channel? fd with
  | some (.pipe n access) =>
    if access.mayRead then
      let p := s.world.pipe n
      return ⟨.ok p.content, p.isSeekable, !s.hasWriter n⟩
    else return ⟨.error (.os 9), false, true⟩
  | some (.file n access) =>
    if access.mayRead then
      return ⟨.ok (.ofBytes (s.world.unread (s.world.openFile n))), true, true⟩
    else return ⟨.error (.os 9), true, true⟩
  | some .directory => return ⟨.error (.os 21), true, true⟩
  | some .null => return ⟨.ok .empty, true, true⟩
  | some .full => return ⟨.ok .zeros, true, true⟩
  | some (.stream _) => return ⟨.error (.os 9), false, true⟩
  | none => return ⟨.error (.os 9), false, true⟩

/-- The file that a descriptor leads to. -/
def placeOf (fd : Nat) : Act (Option (List String)) := do
  match ← channel? fd with
  | some (.file n _) => return some ((← get).world.openFile n).place
  | _ => return none

/-- Leave something to be read from a descriptor. -/
def putBack (fd : Nat) (flow : Flow) : Act Unit := do
  match ← channel? fd with
  | some (.pipe n _) => modifyWorld fun w => w.setPipe n ((w.pipe n).replace flow)
  | some (.file n _) =>
    modifyWorld fun w =>
      let f := w.openFile n
      w.setOpenFile n { f with
        position := f.position + ((w.unread f).length - extent flow) }
  | _ => pure ()

/-- Wait until so many octets can be read from a descriptor, or no more will come. -/
def awaitInput (fd : Nat) (size : Nat) : Act Unit := do
  match ← channel? fd with
  | some (.pipe n _) => waitFor [.input n size]
  | _ => pure ()

/-- Take all that comes from a descriptor, up to its end, after something that has come before. -/
def drain (fd : Nat) (before : Flow) : (fuel : Nat) → Act (Except IoError Flow)
  | 0 => throw .unending
  | fuel + 1 => do
    let supply ← supply fd
    match supply.flow with
    | .error e => return .error e
    | .ok flow =>
      let all := before.append flow
      putBack fd .empty
      if !all.ends then
        waitFor []
        return .ok all
      else if supply.isOver then return .ok all
      else
        awaitInput fd 1
        drain fd all fuel

/-! ### Processes -/

/-- Become two processes. -/
def fork : Act (Option Nat) := fun s => .forks s .done

/-- Let a body come to an end of its process. -/
def sealed (body : Act WaitStatus) : Act WaitStatus := fun s =>
  (body s).andThen .done fun j t =>
    match j with
    | .ended how => .done how t
    | .exit status => .done (.exited status) t
    | .unending => .jumps .unending t
    | _ => .done (.exited t.status) t

/-- Run a body as a process of its own that begins after some time.  It knows what its parent
knows, but for its actions and jobs and for what `prepare` changes.  Gives its number. -/
def spawn (delay : Nat) (prepare : Session → Session) (body : Act WaitStatus) : Act Nat := do
  match ← fork with
  | some pid => do
    pass forkTime
    return pid
  | none => do
    modify fun s => prepare { s.forgetActions with jobs := [] }
    pass delay
    throw (.ended (← sealed body))

/-- Take notice of the children that have ended.  Gives how each ended. -/
def reap : Act (List (Nat × WaitStatus)) := do
  let s ← get
  let mine (e : Ended) : Bool := e.parent = s.pid && e.since ≤ s.world.clock
  let found := (s.world.ended.filter mine).map fun e => (e.pid, e.how)
  set { s with
    jobs := s.jobs.map (Job.note found)
    world := { s.world with ended := s.world.ended.filter (!mine ·) } }
  return found

/-- Say so if a signal ended a child. -/
def mourn (how : WaitStatus) : Act Unit := do
  match how with
  | .signalled signal =>
    if signal ≠ 2 ∧ signal ≠ Signal.pipe then say 2 (Signal.obituary signal ++ "\n")
  | _ => pure ()

/-- Wait for some children, of which some are known to have ended; `note` is told how each of the
others ends. -/
def awaitAll (note : WaitStatus → Act Unit) (pids : List Nat) (known : List (Nat × WaitStatus)) :
    (fuel : Nat) → Act (List (Nat × WaitStatus))
  | 0 => throw .unending
  | fuel + 1 => do
    let found := (← reap).filter fun (pid, _) => pids.contains pid
    found.forM fun (_, how) => note how
    let known := known ++ found
    if pids.all fun pid => known.any (·.1 = pid) then return known
    else
      waitFor [.child]
      awaitAll note pids known fuel

/-- How a process ended that is known to have ended. -/
def endOf (known : List (Nat × WaitStatus)) (pid : Nat) : WaitStatus :=
  ((known.find? (·.1 = pid)).map (·.2)).getD (.exited 0)

/-- Wait for a child and take its status, and say so if a signal ended it. -/
def takeStatus (pid fuel : Nat) : Act Unit := do
  let known ← awaitAll mourn [pid] [] fuel
  setStatus (statusOf (endOf known pid))

/-- Make room for the next job. -/
def freeJob : Act Nat := do
  let s ← get
  let (number, jobs) := Job.allot s.jobs
  set { s with jobs }
  return number

/-- Send a signal to some processes.  It takes effect before this process goes on. -/
def send (targets : List Nat) (signal : Signal) : Act Unit := do
  modifyWorld fun w =>
    { w with mail := w.mail ++ targets.map fun target => ⟨w.clock, target, signal⟩ }
  pass 0

end Outflow.Shell
