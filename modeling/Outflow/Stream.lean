/-!
# The two output streams
-/

namespace Outflow

/-- Where a piece of output came from. -/
inductive Stream where
  | stdout
  | stderr
  deriving DecidableEq, Repr

namespace Stream

/-- The name of a stream, wherever it is written. -/
def name : Stream → String
  | stdout => "stdout"
  | stderr => "stderr"

/-- The other stream. -/
def other : Stream → Stream
  | stdout => stderr
  | stderr => stdout

/-- A pair of values, one for each stream. -/
structure Pair (α : Type) where
  stdout : α
  stderr : α
  deriving DecidableEq, Repr

namespace Pair

variable {α : Type}

/-- The value for a stream. -/
def get (p : Pair α) : Stream → α
  | .stdout => p.stdout
  | .stderr => p.stderr

/-- Replace the value for a stream. -/
def set (p : Pair α) (s : Stream) (a : α) : Pair α :=
  match s with
  | .stdout => { p with stdout := a }
  | .stderr => { p with stderr := a }

@[simp] theorem get_set_self (p : Pair α) (s : Stream) (a : α) : (p.set s a).get s = a := by
  cases s <;> rfl

theorem get_set_of_ne (p : Pair α) {s t : Stream} (a : α) (h : t ≠ s) :
    (p.set s a).get t = p.get t := by
  cases s <;> cases t <;> first | rfl | exact absurd rfl h

theorem set_get_self (p : Pair α) (s : Stream) : p.set s (p.get s) = p := by cases s <;> rfl

theorem set_set (p : Pair α) (s : Stream) (a b : α) : (p.set s a).set s b = p.set s b := by
  cases s <;> rfl

end Pair

end Stream

end Outflow
