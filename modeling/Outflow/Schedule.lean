import Outflow.IoError
import Outflow.Text.Bytes
import Outflow.Stream

/-!
# What a child's output streams will do

A `Schedule` is the future of the two output streams of one child, in the order in which it
becomes visible to a reader.  Only the event at its head can be seen: output of one stream, the
end or the failure of one, or a time in which neither stream has anything.  After the last
event both streams are at their end.
-/

namespace Outflow

/-- Something that a reader of the two streams meets. -/
inductive Event where
  /-- Output.  No output at all reads as the end of the stream. -/
  | data (stream : Stream) (bytes : Bytes)
  | eof (stream : Stream)
  | fail (stream : Stream) (error : IoError)
  /-- Neither stream is readable for some milliseconds. -/
  | delay (ms : Nat)
  /-- Neither stream is ever readable again. -/
  | stall
  deriving DecidableEq, Repr

/-- The events that are still to come. -/
abbrev Schedule := List Event

namespace Event

/-- How many reads an event can take at most. -/
def weight : Event → Nat
  | data _ bytes => bytes.length + 1
  | _ => 1

theorem weight_pos (e : Event) : 0 < e.weight := by cases e <;> simp [weight]

end Event

namespace Schedule

/-- How many reads a schedule can take at most. -/
def weight : Schedule → Nat
  | [] => 0
  | e :: rest => e.weight + weight rest

@[simp] theorem weight_nil : weight [] = 0 := rfl

@[simp] theorem weight_cons (e : Event) (s : Schedule) : weight (e :: s) = e.weight + weight s :=
  rfl

end Schedule

end Outflow
