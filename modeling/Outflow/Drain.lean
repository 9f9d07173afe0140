import Outflow.Capture
import Outflow.Schedule

/-!
# Draining both streams of a child

Reading one stream to its end while the other fills up would stop the child, so both are read
together, a bounded chunk at a time, until both have ended.

`Drain.step` is one look at the streams, `Drain.run` repeats it until the streams have ended,
one of them fails, or the deadline comes.  Time is counted in milliseconds and moves only while
nothing is readable; what is readable when the deadline comes is still read.

A chunk may be of any size: there is taken to be memory to read it into.
-/

namespace Outflow

/-- Why draining stopped before both streams had ended. -/
inductive DrainError where
  | read (stream : Stream) (source : IoError)
  | overflow (overflow : Overflow)
  deriving DecidableEq, Repr

/-- The wording of a drain error. -/
def DrainError.message : DrainError → String
  | read s e => s!"Failed to read {s.name}: {e.message}"
  | overflow o => o.message

/-- A drain in progress. -/
structure Drain where
  captures : Stream.Pair Capture
  /-- Which streams have not ended. -/
  opened : Stream.Pair Bool
  /-- What the streams are still to do. -/
  pending : Schedule
  /-- Milliseconds since the start. -/
  clock : Nat
  /-- What has been let out. -/
  trail : Trail Emission
  deriving DecidableEq, Repr

/-- What one look at the streams gives. -/
inductive Step where
  /-- Both streams have ended. -/
  | ended
  /-- The drain went on by one read, or passed over an event of a stream that has ended. -/
  | advanced (next : Drain)
  /-- Nothing is readable for some milliseconds; then the drain goes on. -/
  | waiting (ms : Nat) (next : Drain)
  /-- Nothing is readable ever again. -/
  | stalled
  /-- The drain ends in an error and leaves this.  What was read in vain is not taken from its
  schedule. -/
  | failed (error : DrainError) (left : Drain)

namespace Drain

/-- What has been let out, in order. -/
def emitted (d : Drain) : List Emission := d.trail.toList

/-- A drain that has read nothing yet. -/
def start (live : Bool) (limit : Option CaptureLimit) (schedule : Schedule) : Drain where
  captures := ⟨.start .stdout live limit, .start .stderr live limit⟩
  opened := ⟨true, true⟩
  pending := schedule
  clock := 0
  trail := .empty

/-- There are no streams to drain. -/
def idle (live : Bool) (limit : Option CaptureLimit) : Drain :=
  { start live limit [] with opened := ⟨false, false⟩ }

/-- A stream has ended: its capture is finished and it is not looked at again. -/
def close (d : Drain) (s : Stream) : Drain :=
  let (capture, emissions) := (d.captures.get s).finish
  { d with
    captures := d.captures.set s capture
    opened := d.opened.set s false
    trail := d.trail.append emissions }

/-- Record a chunk of a stream. -/
def record (d : Drain) (s : Stream) (chunk : Bytes) : Drain × Except Overflow Unit :=
  let r := (d.captures.get s).record chunk
  ({ d with captures := d.captures.set s r.capture, trail := d.trail.append r.emitted }, r.result)

/-- Read a chunk of the output of a stream, of which `more` is left. -/
def read (d : Drain) (s : Stream) (chunk more : Bytes) (rest : Schedule) : Step :=
  match d.record s chunk with
  | (left, .error overflow) => .failed (.overflow overflow) left
  | (left, .ok ()) =>
    .advanced { left with pending := if more = [] then rest else .data s more :: rest }

/-- One look at the streams.  A read takes `chunkSize` octets at most, and at least one. -/
def step (chunkSize : Nat) (d : Drain) : Step :=
  if !d.opened.stdout && !d.opened.stderr then .ended
  else
    match d.pending with
    | [] => .advanced (d.close (if d.opened.stdout then .stdout else .stderr))
    | .delay ms :: rest => .waiting ms { d with pending := rest, clock := d.clock + ms }
    | .stall :: _ => .stalled
    | .data s bytes :: rest =>
      if !d.opened.get s then .advanced { d with pending := rest }
      else if bytes = [] then .advanced ({ d with pending := rest }.close s)
      else d.read s (bytes.take (max chunkSize 1)) (bytes.drop (max chunkSize 1)) rest
    | .eof s :: rest =>
      if !d.opened.get s then .advanced { d with pending := rest }
      else .advanced ({ d with pending := rest }.close s)
    | .fail s error :: rest =>
      if !d.opened.get s then .advanced { d with pending := rest }
      else .failed (.read s error) d

/-- How many more looks the streams can take at most. -/
def remaining (d : Drain) : Nat :=
  Schedule.weight d.pending + d.opened.stdout.toNat + d.opened.stderr.toNat

/-- Every look that does not settle the drain brings it closer to its end. -/
theorem remaining_lt_of_advanced {chunkSize : Nat} {d next : Drain}
    (h : d.step chunkSize = .advanced next) : next.remaining < d.remaining := by
  have hset : ∀ (p : Stream.Pair Bool) (s : Stream),
      (p.set s false).stdout.toNat + (p.set s false).stderr.toNat
        ≤ p.stdout.toNat + p.stderr.toNat := by
    intro p s; cases s <;> simp [Stream.Pair.set]
  unfold step at h
  split at h
  · contradiction
  rename_i hopen
  split at h
  · -- The schedule has run out, and an open stream is closed.
    rename_i hp
    simp only [Step.advanced.injEq] at h
    subst h
    cases ho : d.opened.stdout <;> cases he : d.opened.stderr <;>
      simp [remaining, close, Stream.Pair.set, ho, he, hp] at hopen ⊢
  · contradiction
  · contradiction
  · rename_i s bytes rest hp
    split at h
    · simp only [Step.advanced.injEq] at h
      subst h
      simp [remaining, hp, Event.weight]
    · split at h
      · simp only [Step.advanced.injEq] at h
        subst h
        have := hset d.opened s
        simp [remaining, close, hp, Event.weight]; omega
      · rename_i hb
        unfold read at h
        split at h
        · contradiction
        · rename_i left hleft
          obtain rfl : (d.record s _).1 = left := congrArg Prod.fst hleft
          simp only [Step.advanced.injEq] at h
          subst h
          have hlen : 0 < bytes.length := List.length_pos_iff.2 hb
          by_cases hm : bytes.drop (max chunkSize 1) = []
          · simp [remaining, record, hp, Event.weight, hm]
          · simp only [remaining, record, hp, hm, if_false, Schedule.weight_cons, Event.weight,
              List.length_drop]
            omega
  · rename_i s rest hp
    split at h <;> simp only [Step.advanced.injEq] at h <;> subst h
    · simp [remaining, hp, Event.weight]
    · have := hset d.opened s
      simp [remaining, close, hp, Event.weight]; omega
  · rename_i s e rest hp
    split at h
    · simp only [Step.advanced.injEq] at h
      subst h
      simp [remaining, hp, Event.weight]
    · contradiction

theorem remaining_lt_of_waiting {chunkSize ms : Nat} {d next : Drain}
    (h : d.step chunkSize = .waiting ms next) : next.remaining < d.remaining := by
  unfold step at h
  split at h
  · contradiction
  split at h
  · contradiction
  · rename_i hp
    simp only [Step.waiting.injEq] at h
    rw [← h.2]
    simp [remaining, hp, Event.weight]
  · contradiction
  · repeat' split at h <;> try contradiction
    unfold read at h
    split at h <;> contradiction
  · split at h <;> contradiction
  · split at h <;> contradiction

end Drain

/-- How a drain came to its end. -/
inductive DrainEnd where
  /-- Both streams have ended. -/
  | ended
  | failed (error : DrainError)
  /-- The deadline came first. -/
  | timedOut
  /-- Nothing will ever happen, and there is no deadline. -/
  | hung
  deriving DecidableEq, Repr

/-- Whether a time is not beyond a deadline. -/
def within (deadline : Option Nat) (time : Nat) : Bool :=
  match deadline with
  | none => true
  | some d => time ≤ d

namespace Drain

/-- Wait in vain: until the deadline, or for ever. -/
def giveUp (deadline : Option Nat) (d : Drain) : DrainEnd × Drain :=
  match deadline with
  | none => (.hung, d)
  | some time => (.timedOut, { d with clock := time })

/-- Drain until both streams have ended, one of them fails, or the deadline comes. -/
def run (chunkSize : Nat) (deadline : Option Nat) (d : Drain) : DrainEnd × Drain :=
  match _h : d.step chunkSize with
  | .ended => (.ended, d)
  | .failed error left => (.failed error, left)
  | .stalled => d.giveUp deadline
  | .advanced next => next.run chunkSize deadline
  | .waiting _ next =>
    if within deadline next.clock then next.run chunkSize deadline else d.giveUp deadline
  termination_by d.remaining
  decreasing_by
    · exact remaining_lt_of_advanced _h
    · exact remaining_lt_of_waiting _h

end Drain

end Outflow
