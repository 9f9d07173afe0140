import Outflow.Writer

/-!
# What a writer takes

A writer takes the octets that fit, from the first one on, however they are divided into pieces
(`write_append`, `writeAll_eq`).  What it takes of a write, and whether the write fails, is seen
from the room that it has (`received_write`, `write_eq_ok_iff`).
-/

namespace Outflow

namespace Writer

/-- The part of some octets that fits. -/
def share (w : Writer) (bytes : Bytes) : Bytes :=
  match w.room with
  | none => bytes
  | some room => bytes.take room

/-- All of some octets fit. -/
def Fits (w : Writer) (bytes : Bytes) : Prop := ∀ room ∈ w.room, bytes.length ≤ room

instance (w : Writer) (bytes : Bytes) : Decidable (w.Fits bytes) :=
  inferInstanceAs (Decidable (∀ room ∈ w.room, bytes.length ≤ room))

theorem received_write (w : Writer) (bytes : Bytes) :
    (w.write bytes).1.received = w.received ++ w.share bytes := by
  unfold write share
  cases w.room <;> rfl

theorem share_of_fits (w : Writer) {bytes : Bytes} (h : w.Fits bytes) : w.share bytes = bytes := by
  unfold share
  unfold Fits at h
  cases hroom : w.room with
  | none => rfl
  | some room => exact List.take_of_length_le (h room hroom)

theorem write_eq_ok_iff (w : Writer) (bytes : Bytes) :
    (w.write bytes).2 = .ok () ↔ w.Fits bytes := by
  unfold write Fits
  cases w.room <;> simp

theorem flush_write (w : Writer) (bytes : Bytes) : (w.write bytes).1.flush.2 = w.flush.2 := by
  unfold write
  cases w.room <;> rfl

theorem flush_eq_ok_iff (w : Writer) : w.flush.2 = .ok () ↔ w.failsFlush = false := by
  unfold flush
  cases w.failsFlush <;> simp

/-- An empty write changes nothing, and it succeeds also where there is no room. -/
theorem write_nil (w : Writer) : w.write [] = (w, .ok ()) := by
  obtain ⟨room, failsFlush, received, flushes, full, unflushed⟩ := w
  cases room <;> simp [write]

/-- Octets in two parts are written as the whole of them is. -/
theorem write_append (w : Writer) (xs ys : Bytes) :
    w.write (xs ++ ys) =
      match w.write xs with
      | (w, .ok ()) => w.write ys
      | (w, .error e) => (w, .error e) := by
  obtain ⟨room, failsFlush, received, flushes, full, unflushed⟩ := w
  cases room with
  | none => simp [write]
  | some room =>
    by_cases hfits : xs.length ≤ room
    · have hroom : room - (xs.length + ys.length) = room - xs.length - ys.length := by omega
      have hrest : xs.length + ys.length ≤ room ↔ ys.length ≤ room - xs.length := by omega
      simp [write, hfits, List.take_append, List.take_of_length_le hfits, hroom, hrest]
    · -- The first part takes all the room there is.
      have hnone : room - xs.length = 0 := by omega
      have hroom : room - (xs.length + ys.length) = 0 := by omega
      have hfull : ¬xs.length + ys.length ≤ room := by omega
      simp [write, hfits, List.take_append, hnone, hroom, hfull]

/-- Pieces are written as their octets together are. -/
theorem writeAll_eq (w : Writer) (pieces : List Bytes) :
    w.writeAll pieces = w.write pieces.flatten := by
  induction pieces generalizing w with
  | nil => rw [writeAll, List.flatten_nil, write_nil]
  | cons bytes pieces ih =>
    rw [List.flatten_cons, write_append, writeAll]
    rcases w.write bytes with ⟨w, e | done⟩
    · rfl
    · exact ih w

end Writer

end Outflow
