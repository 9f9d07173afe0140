import Outflow.IoError
import Outflow.Text.Bytes

/-!
# Writers with a bounded room

A `Writer` takes octets until its room is used up.  Of a write that does not fit it takes the
part that does, and then fails; an empty write never fails.
-/

namespace Outflow

/-- A place that takes octets. -/
structure Writer where
  /-- How many more octets fit; any number if unset. -/
  room : Option Nat
  /-- Whether flushing fails. -/
  failsFlush : Bool
  /-- The octets taken, in order. -/
  received : Bytes
  /-- How many times it was flushed. -/
  flushes : Nat
  /-- The error of a write that does not fit. -/
  full : IoError := .noted .storageFull "writer full"
  /-- The error of a flush that fails. -/
  unflushed : IoError := .noted .brokenPipe "flush failed"
  deriving DecidableEq, Repr

namespace Writer

/-- An empty writer. -/
def start (room : Option Nat) (failsFlush : Bool) : Writer :=
  { room, failsFlush, received := [], flushes := 0 }

/-- Write some octets, as many as fit. -/
def write (w : Writer) (bytes : Bytes) : Writer × Except IoError Unit :=
  match w.room with
  | none => ({ w with received := w.received ++ bytes }, .ok ())
  | some room =>
    ({ w with room := some (room - bytes.length), received := w.received ++ bytes.take room },
      if bytes.length ≤ room then .ok () else .error w.full)

/-- Write several pieces in order, until one does not fit. -/
def writeAll (w : Writer) : List Bytes → Writer × Except IoError Unit
  | [] => (w, .ok ())
  | bytes :: rest =>
    match w.write bytes with
    | (w, .ok ()) => w.writeAll rest
    | (w, .error e) => (w, .error e)

/-- Flush.  The attempt is counted also when it fails. -/
def flush (w : Writer) : Writer × Except IoError Unit :=
  ({ w with flushes := w.flushes + 1 }, if w.failsFlush then .error w.unflushed else .ok ())

end Writer

end Outflow
