import Outflow.Execution

/-!
# Looking after a child

A `Supervised` child can be waited for, asked to end, ended by force, or shut down, which is the
one after the other with a time of grace between them.  Once it has been reaped its process
number may belong to another process, so nothing is sent to it any more.

What the operating system does is given by a `Kernel` over a state of its own.  Every signal and
every wait is noted in `Supervised.history`.
-/

namespace Outflow

/-- What comes of a wait. -/
inductive WaitReply where
  | exited (code : Int32)
  | failed (error : IoError)
  /-- The child was still there when all of the time had passed. -/
  | elapsed
  deriving DecidableEq, Repr

/-- What an operating system does with a child that has not been reaped. -/
structure Kernel (σ : Type) where
  /-- Send the request to end. -/
  terminate : σ → Except IoError Unit × σ
  /-- End the child by force and reap it.  Gives its exit code. -/
  kill : σ → Except IoError Int32 × σ
  /-- Wait for the child, at most as long as the limit says, and reap it. -/
  wait : Option Duration → σ → WaitReply × σ

/-- Something done with a child that has not been reaped. -/
inductive Attempt where
  | terminate (reply : Except IoError Unit)
  | kill (reply : Except IoError Int32)
  | wait (limit : Option Duration) (reply : WaitReply)

/-- A child that is looked after. -/
structure Supervised (σ : Type) where
  pid : UInt32
  world : σ
  /-- The exit code, once the child has been reaped. -/
  code : Option Int32
  /-- What was done with the child, in order. -/
  history : List Attempt

namespace Supervised

variable {σ : Type}

/-- A child that has just been started. -/
def start (pid : UInt32) (world : σ) : Supervised σ := ⟨pid, world, none, []⟩

/-- Whether the child has been reaped. -/
def isReaped (s : Supervised σ) : Bool := s.code.isSome

/-- Wait for the child.  A child that has been reaped gives its code again. -/
def wait (k : Kernel σ) (limit : Option Duration) (s : Supervised σ) : WaitReply × Supervised σ :=
  match s.code with
  | some code => (.exited code, s)
  | none =>
    let (reply, world) := k.wait limit s.world
    let code := match reply with | .exited code => some code | _ => none
    (reply, { s with world, code, history := s.history ++ [.wait limit reply] })

/-- Ask the child to end.  It counts as asked if it is gone. -/
def terminate (k : Kernel σ) (s : Supervised σ) : Except CleanupError Unit × Supervised σ :=
  match s.code with
  | some _ => (.ok (), s)
  | none =>
    let (reply, world) := k.terminate s.world
    let s := { s with world, history := s.history ++ [.terminate reply] }
    match reply with
    | .ok () => (.ok (), s)
    | .error e => (if e = .noSuchProcess then .ok () else .error (.signal s.pid e), s)

/-- End the child by force and reap it. -/
def kill (k : Kernel σ) (s : Supervised σ) : Except CleanupError Unit × Supervised σ :=
  match s.code with
  | some _ => (.ok (), s)
  | none =>
    let (reply, world) := k.kill s.world
    let s := { s with world, code := reply.toOption, history := s.history ++ [.kill reply] }
    match reply with
    | .ok _ => (.ok (), s)
    | .error e => (.error (.kill e), s)

/-- Ask the child to end, give it some time, and then end it by force. -/
def shutdown (k : Kernel σ) (grace : Duration) (s : Supervised σ) :
    Except CleanupError Unit × Supervised σ :=
  match s.terminate k with
  | (.error _, s) => s.kill k
  | (.ok (), s) =>
    match s.wait k (some grace) with
    | (.exited _, s) => (.ok (), s)
    | (.failed e, s) => (.error (.reap e), s)
    | (.elapsed, s) => s.kill k

/-- Something that can be asked of a child. -/
inductive Request where
  | wait (limit : Option Duration)
  | terminate
  | kill
  | shutdown (grace : Duration)
  deriving DecidableEq, Repr

/-- Carry out a request, whatever comes of it. -/
def ask (k : Kernel σ) (s : Supervised σ) : Request → Supervised σ
  | .wait limit => (s.wait k limit).2
  | .terminate => (s.terminate k).2
  | .kill => (s.kill k).2
  | .shutdown grace => (s.shutdown k grace).2

/-- The word in the log about an attempt of a shutdown, if only force is left after it. -/
def forceNote? (pid : UInt32) : Attempt → Option LogEntry
  | .terminate (.error e) =>
    if e = .noSuchProcess then none
    else
      some ⟨.warn, .process, s!"{(CleanupError.signal pid e).message}; killing process " ++
        s!"{showPid pid} instead", none⟩
  | .wait (some grace) .elapsed =>
    some ⟨.warn, .process, s!"Process {showPid pid} still running {grace.brief} after " ++
      "termination request, killing it", none⟩
  | _ => none

/-- What shutting a child down tries. -/
def shutdownTries (k : Kernel σ) (grace : Duration) (s : Supervised σ) : List Attempt :=
  (s.shutdown k grace).2.history.drop s.history.length

/-- What is said in the log while a child is shut down. -/
def shutdownNotes (k : Kernel σ) (grace : Duration) (s : Supervised σ) : List LogEntry :=
  (s.shutdownTries k grace).filterMap (forceNote? s.pid)

end Supervised

end Outflow
