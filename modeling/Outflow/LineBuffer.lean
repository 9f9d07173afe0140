import Outflow.Text.Bytes
import Outflow.Trail

/-!
# Lines out of chunks

Output arrives in chunks that end anywhere, also inside a character.  A `LineBuffer` holds
back what follows the last newline until the line is complete or the stream ends, and only
then decodes it, so a line reads the same however it was cut.
-/

namespace Outflow

/-- The beginning of a line whose end has not arrived. -/
structure LineBuffer where
  /-- The octets since the last newline. -/
  held : Trail UInt8
  deriving DecidableEq, Repr

namespace LineBuffer

/-- The octets held back. -/
def pending (b : LineBuffer) : Bytes := b.held.toList

/-- Nothing held back. -/
def empty : LineBuffer := ⟨.empty⟩

/-- Take in a chunk: the lines it completes, without their newlines, and what is held back now.
The first piece of the chunk continues what was held back. -/
def push (b : LineBuffer) (chunk : Bytes) : List String × LineBuffer :=
  match chunk.splitOn Bytes.newline with
  | [] => ([], b)
  | [piece] => ([], ⟨b.held.append piece⟩)
  | first :: rest =>
    let complete := (b.held.append first).toList :: rest.dropLast
    (complete.map Bytes.text, ⟨.ofList (rest.getLastD [])⟩)

/-- The stream has ended: what was held back is a line of its own, unless it is empty. -/
def flush (b : LineBuffer) : Option String × LineBuffer :=
  if b.held.size = 0 then (none, b) else (some (Bytes.text b.pending), empty)

/-- The pieces of a chunk, the first of them joined to what was held back: all but the last are
complete lines, and the last is held back. -/
theorem push_eq {b : LineBuffer} {chunk first : Bytes} {rest : List Bytes}
    (h : chunk.splitOn Bytes.newline = first :: rest) :
    b.push chunk =
      ((((b.pending ++ first) :: rest).dropLast).map Bytes.text,
        ⟨.ofList (((b.pending ++ first) :: rest).getLastD [])⟩) := by
  cases rest with
  | nil =>
    simp only [push, h, pending, List.dropLast_singleton, List.map_nil, Prod.mk.injEq, true_and,
      LineBuffer.mk.injEq]
    exact Trail.ext_toList (by simp)
  | cons second rest => simp [push, h, pending]

end LineBuffer

end Outflow
