import Outflow.Host.Launch
import Outflow.Supervision

/-!
# A child at work

A child that runs on a machine, while this program reads its streams, waits for it and sends it
signals.  Time passes only while something is waited for.
-/

namespace Outflow

/-- A child that was started, the signals it was sent, and the time since then. -/
structure Progress where
  launch : Launch
  signals : List (Nat × Signal)
  micros : Nat
  /-- What the child does, as far as is decided by now. -/
  behaviour : Behaviour

namespace Progress

/-- A child that has just been started. -/
def start (l : Launch) : Progress := ⟨l, [], 0, l.behaviour []⟩

/-- Send a signal now, which comes after all that happens at this moment. -/
def send (p : Progress) (signal : Signal) : Progress :=
  let signals := p.signals ++ [(p.micros + 1, signal)]
  { p with signals, behaviour := p.launch.behaviour signals }

/-- Wait up to a moment. -/
def waitUntil (p : Progress) (t : Nat) : Progress := { p with micros := max t p.micros }

/-- What the machine does with a child that has not been reaped. -/
def kernel : Kernel Progress where
  terminate p := (.ok (), p.send Signal.term)
  kill p :=
    let p := p.send Signal.kill
    match p.behaviour.ended with
    | some (t, how) => (.ok how.exitCode, p.waitUntil t)
    | none => (.error (.os 10), p)
  wait limit p :=
    let last := limit.map fun d => p.micros + (d.toNanos / 1000)
    match p.behaviour.ended, last with
    | some (t, how), none => (.exited how.exitCode, p.waitUntil t)
    | some (t, how), some last =>
      if t ≤ last then (.exited how.exitCode, p.waitUntil t) else (.elapsed, p.waitUntil last)
    | none, some last => (.elapsed, p.waitUntil last)
    | none, none => (.elapsed, p)

end Progress

/-- A child that is looked after, with its streams. -/
structure LiveChild where
  supervised : Supervised Progress
  /-- Its streams can still be taken. -/
  hasStreams : Bool
  /-- How much of each stream has been read. -/
  read : Stream.Pair Nat

namespace LiveChild

/-- The number of a child. -/
def pid : UInt32 := UInt32.ofNat Launch.pid

/-- Start a command. -/
def start (m : Machine) (c : Command) : Except IoError LiveChild :=
  (Launch.ofCommand m c).map fun launch =>
    ⟨.start pid (.start launch), c.capture = .captured, ⟨0, 0⟩⟩

/-- Take the streams.  Tells whether they were there to be taken. -/
def takeStreams (c : LiveChild) : Bool × LiveChild := (c.hasStreams, { c with hasStreams := false })

/-- Let time pass up to a moment. -/
def waitUntil (c : LiveChild) (t : Nat) : LiveChild :=
  { c with supervised := { c.supervised with world := c.supervised.world.waitUntil t } }

/-- The end of what can be read. -/
def endOfFile : IoError := .noted .unexpectedEof "unexpected end of file"

/-- Read one octet. -/
def readByte (c : LiveChild) (stream : Stream) : Except IoError UInt8 × LiveChild :=
  let b := c.supervised.world.behaviour
  let timed := b.outputs.flatMap fun o =>
    if o.stream = stream then o.bytes.map (o.micros, ·) else []
  match timed[c.read.get stream]? with
  | some (t, byte) =>
    (.ok byte, { c.waitUntil t with read := c.read.set stream (c.read.get stream + 1) })
  | none => (.error endOfFile, c.waitUntil ((b.closed.get stream).getD 0))

/-- Read both streams to their end. -/
def readAll (c : LiveChild) : Stream.Pair Bytes × LiveChild :=
  let b := c.supervised.world.behaviour
  let rest (s : Stream) : Bytes := (b.outputOn s).drop (c.read.get s)
  let read : Stream.Pair Nat := ⟨(b.outputOn .stdout).length, (b.outputOn .stderr).length⟩
  let c := c.waitUntil (max (b.closed.stdout.getD 0) (b.closed.stderr.getD 0))
  (⟨rest .stdout, rest .stderr⟩, { c with read })

/-- Wait for the child. -/
def wait (c : LiveChild) : WaitReply × LiveChild :=
  let (reply, supervised) := c.supervised.wait Progress.kernel none
  (reply, { c with supervised })

/-- Ask the child to end. -/
def terminate (c : LiveChild) : Except CleanupError Unit × LiveChild :=
  let (reply, supervised) := c.supervised.terminate Progress.kernel
  (reply, { c with supervised })

/-- End the child by force. -/
def kill (c : LiveChild) : Except CleanupError Unit × LiveChild :=
  let (reply, supervised) := c.supervised.kill Progress.kernel
  (reply, { c with supervised })

/-- What is said in the log while the child is shut down. -/
def shutdownNotes (c : LiveChild) (grace : Duration) : List LogEntry :=
  c.supervised.shutdownNotes Progress.kernel grace

/-- Shut the child down. -/
def shutdown (c : LiveChild) (grace : Duration) : Except CleanupError Unit × LiveChild :=
  let (reply, supervised) := c.supervised.shutdown Progress.kernel grace
  (reply, { c with supervised })

end LiveChild

end Outflow
