import Outflow.Execution
import Outflow.Shell.Crowd
import Outflow.Shell.Evaluation

/-!
# Starting a child

A command is started on a machine: its working directory and its program are looked up, and its
variables are laid over those of the machine.  What the child then does depends only on the
signals that it is sent, so a `Launch` together with those signals and their times gives all of
its `Behaviour`.
-/

namespace Outflow

/-- All that a child starts with.  Texts are in raw form. -/
structure Launch where
  files : Files
  dir : List String
  env : List (String × String)
  call : Program.Call

/-- What a child does.  Times are in microseconds from its start. -/
structure Behaviour where
  /-- Its output and that of its descendants, in order. -/
  outputs : List Shell.Output
  /-- When the last process that could write to a stream was done with it, if ever. -/
  closed : Stream.Pair (Option Nat)
  /-- When and how it ended, if ever. -/
  ended : Option (Nat × WaitStatus)
  files : Files

namespace Launch

/-- What stands at a path, with all names in raw form. -/
def rawNode : FileNode → FileNode
  | .link target => .link (Bytes.raw target)
  | node => node

/-- Files with all names in raw form. -/
def rawFiles (fs : Files) : Files :=
  ⟨fs.nodes.map fun (path, node) => (path.map Bytes.raw, rawNode node)⟩

/-- Whether a text holds a zero octet. -/
def hasNul (s : String) : Bool := s.toList.contains '\x00'

/-- Look everything up that a command needs to start. -/
def ofCommand (m : Machine) (c : Command) : Except IoError Launch := do
  let overlay := c.env.getD []
  if (c.args ++ c.workingDir.toList).any hasNul || overlay.any (fun (k, v) => hasNul k || hasNul v)
  then throw .nulByte
  let dir ← match c.workingDir with
    | none => pure m.dir
    | some path =>
      let found ← m.files.resolve m.dir path
      if m.files.isDirectory found then pure found else throw (.os 20)
  let env := m.env.insertAll overlay
  let searchPath := (env.get? "PATH").getD Program.commonPath
  if Files.maxName < c.program.utf8ByteSize ∧ ¬ c.program.toList.contains '/' then
    throw (.os 36)
  let (path, program) ← Program.find m.files dir searchPath c.program
  let call ← Program.call m.files dir path c.program c.arguments Program.maxReaders program
  -- A variable is handed over as one text, so its name ends at the first equals sign.
  let env := env.map fun (k, v) =>
    let (name, value) := Shell.Builtin.cutAssignment s!"{k}={v}"
    (Bytes.raw name, Bytes.raw (value.getD ""))
  let call := { call with name := Bytes.raw call.name, args := call.args.map Bytes.raw }
  if Program.isTooMuch (call.name :: call.args) env then throw (.os 7)
  return { files := rawFiles m.files, dir := dir.map Bytes.raw, env, call }

/-- The number that children go by. -/
def pid : Nat := 4242

/-- How deep and how long a child is followed. -/
def fuel : Nat := 150000

/-- How many steps the processes of a child are followed for. -/
def turns : Nat := 1000000

/-- What the processes of a child share before its program runs. -/
def world (l : Launch) : Shell.World where
  clock := 0
  files := l.files
  pipes := ∅
  named := []
  opened := ∅
  outputs := []
  ended := []
  mail := []
  living := []
  readable := []
  writable := []
  lastPid := pid
  lastPipe := 0
  lastOpened := 0

/-- The process of a child before its program runs. -/
def session (l : Launch) : Shell.Session where
  pid := pid
  parent := pid - 1
  group := pid - 1
  leader := pid
  name := l.call.name
  command := none
  arguments := []
  vars := l.env.map fun (name, value) => ⟨name, some value, true, false⟩
  frames := []
  functions := []
  aliases := []
  hashed := []
  status := 0
  substituted := none
  traps := []
  deafTo := []
  channels := [(0, .null), (1, .stream .stdout), (2, .stream .stderr)]
  kept := []
  dir := l.dir
  way := l.dir
  umask := 0o022
  limits := Shell.Limit.common
  options := []
  isGuarded := false
  loops := 0
  line := 1
  optionIndex := 1
  optionOffset := none
  pending := []
  noticed := 0
  actions := 0
  interrupted := none
  jobs := []
  lastJob := none
  world := l.world

/-- All processes of a child before its program runs. -/
def crowd (l : Launch) (signals : List (Nat × Signal)) : Shell.Crowd :=
  let step := Shell.become fuel l.call l.session
  { world := step.session.world
    tasks := [⟨step, none, []⟩]
    arrivals := signals
    first := pid
    outcome := none
    closed := ⟨none, none⟩ }

/-- What a child does that is sent some signals. -/
def behaviour (l : Launch) (signals : List (Nat × Signal)) : Behaviour :=
  let c := (l.crowd signals).run turns
  { outputs := c.world.outputs.reverse, closed := c.closed, ended := c.outcome?
    files := c.world.files }

end Launch

namespace Behaviour

/-- The output on one stream. -/
def outputOn (b : Behaviour) (stream : Stream) : Bytes :=
  b.outputs.flatMap fun o => if o.stream = stream then o.bytes else []

/-- The events that a reader of the streams meets, with their times. -/
def timedEvents (b : Behaviour) : List (Nat × Event) :=
  let data := b.outputs.map fun o => (o.micros, Event.data o.stream o.bytes)
  let ends := [Stream.stdout, Stream.stderr].filterMap fun s =>
    (b.closed.get s).map fun t => (t, Event.eof s)
  (data ++ ends).mergeSort fun a b => a.1 ≤ b.1

/-- Put delays between events that have times in milliseconds. -/
def withDelays (now : Nat) : List (Nat × Event) → Schedule
  | [] => []
  | (t, e) :: rest =>
    if now < t then .delay (t - now) :: e :: withDelays t rest else e :: withDelays now rest

/-- The schedule of the streams. -/
def schedule (b : Behaviour) : Schedule :=
  withDelays 0 (b.timedEvents.map fun (t, e) => (t / 1000, e)) ++
    if b.closed.stdout.isSome && b.closed.stderr.isSome then [] else [.stall]

/-- The child, as a run sees it that has taken its streams, or that has not. -/
def child (b : Behaviour) (pid : UInt32) (streamsTaken : Bool) : Child where
  pid := some pid
  waitDelay :=
    match b.ended with
    | none => 0
    | some (t, _) =>
      let closed := max (b.closed.stdout.getD 0) (b.closed.stderr.getD 0)
      t / 1000 - if streamsTaken then closed / 1000 else 0
  waitAnswer :=
    match b.ended with
    | none => .never
    | some (_, how) => .exits how.exitCode
  shutdown := .ok ()

end Behaviour

end Outflow
