import Mathlib.Logic.Relation
import Outflow.Schedule

/-!
# One stream of a schedule

A schedule interleaves what two streams do.  `outputOf` and `endOf` are what one of them does
as if it were alone: the octets up to its first end, and how it ends.  Events of the other
stream and times in which nothing is readable do not matter to them, nor does anything that
comes after the end.

`Recut` relates schedules that differ only in how output is divided into events.

`Chunks` is output alone, of both streams in pieces.
-/

namespace Outflow

/-- Octets of the two streams in chunks, in their order. -/
abbrev Chunks := List (Stream × Bytes)

namespace Chunks

/-- The octets of one stream. -/
def octetsOf (s : Stream) (chunks : Chunks) : Bytes :=
  chunks.flatMap fun chunk => if chunk.1 = s then chunk.2 else []

@[simp] theorem octetsOf_nil (s : Stream) : octetsOf s [] = [] := rfl

@[simp] theorem octetsOf_append (s : Stream) (chunks more : Chunks) :
    octetsOf s (chunks ++ more) = octetsOf s chunks ++ octetsOf s more := List.flatMap_append

@[simp] theorem octetsOf_singleton (s : Stream) (chunk : Bytes) :
    octetsOf s [(s, chunk)] = chunk := by
  simp [octetsOf]

theorem octetsOf_singleton_of_ne {s t : Stream} (chunk : Bytes) (h : s ≠ t) :
    octetsOf s [(t, chunk)] = [] := by
  simp [octetsOf, h.symm]

theorem octetsOf_map_self (s : Stream) (chunks : List Bytes) :
    octetsOf s (chunks.map (s, ·)) = chunks.flatten := by
  simp [octetsOf, List.flatMap_map]

theorem octetsOf_map_of_ne {s t : Stream} (chunks : List Bytes) (h : s ≠ t) :
    octetsOf s (chunks.map (t, ·)) = [] := by
  simp [octetsOf, h.symm]

end Chunks

/-- How one stream of a schedule ends. -/
inductive StreamEnd where
  /-- By its end being read, which is what a schedule that runs out comes to as well. -/
  | eof
  | fail (error : IoError)
  /-- It does not end: nothing is ever readable again before. -/
  | never
  deriving DecidableEq, Repr

/-- The stream that an event is about. -/
def Event.stream? : Event → Option Stream
  | .data s _ => some s
  | .eof s => some s
  | .fail s _ => some s
  | .delay _ => none
  | .stall => none

namespace Schedule

/-- The output of one stream, up to its first end. -/
def outputOf (s : Stream) : Schedule → Bytes
  | [] => []
  | .data t bytes :: rest =>
    if t = s then if bytes = [] then [] else bytes ++ outputOf s rest else outputOf s rest
  | .eof t :: rest => if t = s then [] else outputOf s rest
  | .fail t _ :: rest => if t = s then [] else outputOf s rest
  | .delay _ :: rest => outputOf s rest
  | .stall :: _ => []

/-- How one stream ends. -/
def endOf (s : Stream) : Schedule → StreamEnd
  | [] => .eof
  | .data t bytes :: rest => if t = s ∧ bytes = [] then .eof else endOf s rest
  | .eof t :: rest => if t = s then .eof else endOf s rest
  | .fail t error :: rest => if t = s then .fail error else endOf s rest
  | .delay _ :: rest => endOf s rest
  | .stall :: _ => .never

/-- An event of another stream does not add to the output. -/
theorem outputOf_cons_of_ne {s t : Stream} {e : Event} (rest : Schedule)
    (he : e.stream? = some t) (h : s ≠ t) : outputOf s (e :: rest) = outputOf s rest := by
  cases e <;> simp_all [Event.stream?, outputOf, h.symm]

/-- An event of another stream is not the end. -/
theorem endOf_cons_of_ne {s t : Stream} {e : Event} (rest : Schedule)
    (he : e.stream? = some t) (h : s ≠ t) : endOf s (e :: rest) = endOf s rest := by
  cases e <;> simp_all [Event.stream?, endOf, h.symm]

/-- One output event in place of two adjacent ones of the same stream, or the other way
    round.  None of them is empty, for that would be the end of the stream. -/
inductive Split : Schedule → Schedule → Prop where
  | intro (before after : Schedule) (s : Stream) (xs ys : Bytes) (hx : xs ≠ []) (hy : ys ≠ []) :
    Split (before ++ .data s (xs ++ ys) :: after)
      (before ++ .data s xs :: .data s ys :: after)

/-- Schedules that differ in how output is divided into events, after any number of splits and
    merges. -/
def Recut : Schedule → Schedule → Prop := Relation.EqvGen Split

end Schedule

end Outflow
