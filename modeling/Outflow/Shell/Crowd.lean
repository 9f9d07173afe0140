import Outflow.Shell.Act
import Std.Data.HashSet

/-!
# Processes side by side

A `Crowd` is all processes of a run, each at the step where it stands, with the world that they
share.  The one that can go on first goes on next, which may change what the others wait for.
Signals reach a process where it stands, those from outside in their time.  A process that has
ended leaves word for its parent, and its children to nobody.
-/

namespace Outflow.Shell

/-- A process at the step where it stands. -/
structure Task where
  step : Step WaitStatus
  /-- When it was stopped, if it goes on only when it is told to. -/
  stopped : Option Nat
  /-- The signals that came while it was stopped. -/
  missed : List Signal

/-- The processes of a run. -/
structure Crowd where
  world : World
  /-- Oldest first. -/
  tasks : List Task
  /-- Signals that will come from outside to the first process, with their times, in order. -/
  arrivals : List (Nat × Signal)
  /-- The first process, and when and how it ended. -/
  first : Nat
  outcome : Option (Nat × WaitStatus)
  /-- When the last process that could write to a stream was done with it. -/
  closed : Stream.Pair (Option Nat)

namespace Step

/-- A process that knows something else where it stands. -/
def withSession {α : Type} (f : Session → Session) : Step α → Step α
  | done a s => done a (f s)
  | jumps j s => jumps j (f s)
  | waits awaited s resume => waits awaited (f s) resume
  | forks s resume => forks (f s) resume

/-- How a process has ended, if it has. -/
def outcome? : Step WaitStatus → Option WaitStatus
  | done how _ => some how
  | jumps (.ended how) _ => some how
  | jumps (.exit status) _ => some (.exited status)
  | jumps .unending _ => none
  | jumps _ s => some (.exited s.status)
  | _ => none

end Step

namespace Task

/-- What a process knows. -/
def session (t : Task) : Session := t.step.session

/-- The number of a process. -/
def pid (t : Task) : Nat := t.session.pid

end Task

namespace Crowd

/-- The microseconds after which a parent finds out about its child. -/
def newsTime : Nat := 40

/-- The microseconds that a process takes to die of a signal. -/
def deathTime : Nat := 40

/-- The microseconds after which a process takes notice of a signal that has waited for so long. -/
def noticeTime (waited : Nat) : Nat := if waited < 1000 then 20 else 100

/-- The microseconds after which a process that is stopped does not notice signals any more. -/
def haltTime : Nat := 20

/-- The channels of all processes but one. -/
def heldBeside (c : Crowd) (pid : Nat) : List Channel :=
  (c.tasks.filter (·.pid ≠ pid)).flatMap (·.session.held)

/-- The pipes that some channels lead to and that may be used in some way. -/
def pipesOf (channels : List Channel) (may : Access → Bool) : List Nat :=
  channels.filterMap fun
    | .pipe n access => if may access then some n else none
    | _ => none

/-- The pipes that processes can read from, and write into. -/
structure Ends where
  readable : Std.HashSet Nat
  writable : Std.HashSet Nat

/-- The pipes that any process can read from, and write into. -/
def ends (c : Crowd) : Ends :=
  let held := c.tasks.flatMap (·.session.held)
  ⟨.ofList (pipesOf held Access.mayRead), .ofList (pipesOf held Access.mayWrite)⟩

/-! ### Ends and signals -/

/-- Send a signal. -/
def post (c : Crowd) (due target : Nat) (signal : Signal) : Crowd :=
  { c with world := { c.world with mail := c.world.mail ++ [⟨due, target, signal⟩] } }

/-- Put a process at another step. -/
def place (c : Crowd) (pid : Nat) (task : Task) : Crowd :=
  { c with tasks := c.tasks.map fun t => if t.pid = pid then task else t }

/-- End a process.  Its parent finds out a little later; that of the first process, which is not
among the others, does not ask while they are looked at. -/
def finish (c : Crowd) (t : Task) (how : WaitStatus) : Crowd :=
  let s := t.session
  let w := c.world
  let others := c.tasks.filter (·.pid ≠ s.pid)
  let orphan (u : Task) : Task :=
    { u with step := u.step.withSession fun v =>
        if v.parent = s.pid then { v with parent := 1 } else v }
  let since := w.clock + newsTime
  let ended := w.ended.filter (·.parent ≠ s.pid)
  let c := { c with
    tasks := others.map orphan
    outcome := if s.pid = c.first then some (w.clock, how) else c.outcome }
  if s.pid = c.first || others.any (·.pid = s.parent) then
    let word : Ended := ⟨s.pid, s.parent, s.group, since, how⟩
    let c := { c with world := { w with ended := ended ++ [word] } }
    c.post since s.parent Signal.child
  else { c with world := { w with ended } }

/-- Let a signal reach a process. -/
def strike (c : Crowd) (t : Task) (signal : Signal) : Crowd :=
  let now := c.world.clock
  if signal ≠ Signal.kill && t.stopped.any (· + haltTime < now) then
    c.place t.pid { t with missed := t.missed ++ [signal] }
  else
    match t.session.disposition signal with
    | .ignored => c
    | .acted =>
      let notice (s : Session) : Session :=
        { s with
          pending := s.pending ++ [signal]
          noticed := now + noticeTime (now - s.world.clock) }
      c.place t.pid { t with step := t.step.withSession notice }
    | .stopping =>
      (c.place t.pid { t with stopped := some now }).post now t.session.parent Signal.child
    | .lethal =>
      let die : Step WaitStatus := .waits [.moment (now + deathTime)] t.session.dying
        (.jumps (.ended (.signalled signal)))
      c.place t.pid { t with step := die, stopped := none }

/-- Let some signals reach a process, one after the other. -/
def strikeAll (c : Crowd) (pid : Nat) (signals : List Signal) : Crowd :=
  signals.foldl
    (fun c signal =>
      match c.tasks.find? (·.pid = pid) with
      | some t => c.strike t signal
      | none => c)
    c

/-- Let a signal reach a process by its number.  One that is told to go on does so, and gets the
signals that it missed. -/
def receive (c : Crowd) (pid : Nat) (signal : Signal) : Crowd :=
  match c.tasks.find? (·.pid = pid) with
  | none => c
  | some t =>
    if t.stopped.isSome && signal = Signal.cont then
      let c := c.place pid { t with stopped := none, missed := [] }
      let missed := t.missed.filter (· ≠ Signal.stop)
      (c.strikeAll pid (signal :: missed)).post c.world.clock t.session.parent Signal.child
    else c.strike t signal

/-! ### Time -/

/-- The earlier one of two times, of which either may be missing. -/
def earlier : Option Nat → Option Nat → Option Nat
  | some a, some b => some (min a b)
  | some a, none => some a
  | none, b => b

/-- When something that a process waits for comes about, as far as can be told now. -/
def due (c : Crowd) (ends : Thunk Ends) (s : Session) : Awaited → Option Nat
  | .moment t => some t
  | .input n size => now ((size ≤ (c.world.pipe n).size) || !ends.get.writable.contains n)
  | .room n => now ((c.world.pipe n).size ≤ Pipe.capacity || !ends.get.readable.contains n)
  | .reading n count => now (count < (c.world.pipe n).readings)
  | .writing n count => now (count < (c.world.pipe n).writings)
  | .child =>
    ((c.world.ended.filter (·.parent = s.pid)).map fun e => some e.since).foldl earlier none
  | .signal => if s.pending.isEmpty then none else some s.noticed
where
  /-- Now, if that is so. -/
  now (b : Bool) : Option Nat := if b then some c.world.clock else none

/-- When a process can go on. -/
def ready (c : Crowd) (ends : Thunk Ends) (t : Task) : Option Nat :=
  if t.stopped.isSome then none
  else
    let time := match t.step with
      | .waits awaited s _ => (awaited.map (c.due ends s)).foldl earlier none
      | .jumps .unending _ => none
      | _ => some c.world.clock
    (time.map (max c.world.clock)).filter (· ≤ horizon)

/-- The process that can go on first, and when. -/
def next? (c : Crowd) : Option (Nat × Task) :=
  let ends := Thunk.mk fun () => c.ends
  c.tasks.foldl
    (fun best t =>
      match c.ready ends t, best with
      | some a, some (b, _) => if a < b then some (a, t) else best
      | some a, none => some (a, t)
      | none, _ => best)
    none

/-- The signal that comes first, and when; one from outside without the process that it is for. -/
def signal? (c : Crowd) : Option (Nat × Option Letter) :=
  let inside := c.world.mail.foldl
    (fun (best : Option (Nat × Option Letter)) l =>
      match best with
      | some (t, _) => if l.due < t then some (l.due, some l) else best
      | none => some (l.due, some l))
    none
  match inside, c.arrivals.head? with
  | some (t, l), some (u, _) => if u < t then some (u, none) else some (t, l)
  | none, some (u, _) => some (u, none)
  | inside, none => inside

/-- Move the clock. -/
def passTo (c : Crowd) (t : Nat) : Crowd :=
  { c with world := { c.world with clock := max t c.world.clock } }

/-- Deliver the signal that comes first. -/
def deliver (c : Crowd) (time : Nat) (letter : Option Letter) : Crowd :=
  let c := c.passTo time
  match letter with
  | some l =>
    let isIt (m : Letter) : Bool :=
      m.due = l.due && m.target = l.target && m.signal = l.signal
    let c := { c with world := { c.world with mail := c.world.mail.eraseP isIt } }
    c.receive l.target l.signal
  | none =>
    match c.arrivals with
    | (_, signal) :: rest =>
      let c := { c with arrivals := rest }
      c.receive c.first signal
    | [] => c

/-! ### Turns -/

/-- What a process sees of the others when it goes on. -/
def view (c : Crowd) (s : Session) : Session :=
  let channels := c.heldBeside s.pid
  { s with world := { c.world with
      readable := pipesOf channels Access.mayRead, writable := pipesOf channels Access.mayWrite
      living := (1, 0) :: (c.first - 1, c.first - 1) ::
        c.tasks.map fun t => (t.pid, t.session.group) } }

/-- Take over the world as a process leaves it. -/
def settle (c : Crowd) (t : Task) (step : Step WaitStatus) : Crowd :=
  { c.place t.pid { t with step } with world := step.session.world }

/-- Let a process take its next step. -/
def turn (c : Crowd) (t : Task) : Crowd :=
  match t.step with
  | .waits _ s resume => c.settle t (resume (c.view s))
  | .forks s resume =>
    let pid := c.world.lastPid + 1
    let c := { c with world := { c.world with lastPid := pid } }
    let child := resume none { c.view s with pid, parent := s.pid }
    let task : Task := ⟨child, none, []⟩
    let c := { c with tasks := c.tasks ++ [task], world := child.session.world }
    c.settle t (resume (some pid) (c.view s))
  | step =>
    match step.outcome? with
    | some how => c.finish t how
    | none => c

/-- Note the streams that no process can write to any more. -/
def noteClosed (c : Crowd) : Crowd :=
  let check (stream : Stream) (known : Option Nat) : Option Nat :=
    known.orElse fun () =>
      if c.tasks.any (·.session.held.contains (.stream stream)) then none
      else some c.world.clock
  { c with closed := ⟨check .stdout c.closed.stdout, check .stderr c.closed.stderr⟩ }

/-- How many pipes and open files are remembered that nobody may have any more. -/
def slack : Nat := 16

/-- Forget the pipes and open files that nobody has any more, once there are many.  Those that are
new are kept, as they may be on their way to a process. -/
def tidy (c : Crowd) : Crowd :=
  let w := c.world
  if w.pipes.size + w.opened.size ≤ 4 * (slack + c.tasks.length) then c
  else
    let held := c.tasks.flatMap (·.session.held)
    let pipes := Std.HashSet.ofList (pipesOf held fun _ => true)
    let files := Std.HashSet.ofList (held.filterMap fun
      | .file n _ => some n
      | _ => none)
    let pipes := w.pipes.filter fun n _ =>
      w.lastPipe < n + slack || w.named.any (·.2 = n) || pipes.contains n
    let opened := w.opened.filter fun n _ => w.lastOpened < n + slack || files.contains n
    { c with world := { w with pipes, opened } }

/-- Let processes go on until none can any more. -/
def run (c : Crowd) : (fuel : Nat) → Crowd
  | 0 => c
  | fuel + 1 =>
    let step (c : Crowd) : Crowd := run c.noteClosed.tidy fuel
    match c.next?, c.signal? with
    | none, none => c
    | some (time, t), none => step ((c.passTo time).turn t)
    | none, some (time, letter) => step (c.deliver time letter)
    | some (time, t), some (at', letter) =>
      if at' ≤ time then step (c.deliver at' letter) else step ((c.passTo time).turn t)

/-- When and how the first process ends.  If it is not followed that far, the first signal ends it
that it cannot bear. -/
def outcome? (c : Crowd) : Option (Nat × WaitStatus) :=
  c.outcome.orElse fun () => do
    let t ← c.tasks.find? (·.pid = c.first)
    let (time, signal) ← c.arrivals.find? fun (_, signal) =>
      t.session.disposition signal == .lethal
    return (max time c.world.clock, .signalled signal)

end Crowd

end Outflow.Shell
