import Outflow.Text.Bytes

/-!
# What flows through a pipe

A `Flow` is some octets, followed, if `cycle` is not empty, by that cycle over and over again
without end.
-/

namespace Outflow

namespace Bytes

/-- Octets as a text of characters below 256, one for each octet.  Programs that know no
characters but octets handle their arguments in this form. -/
def toRaw (bytes : Bytes) : String := String.ofList (bytes.map fun b => Char.ofNat b.toNat)

/-- The octets of such a text. -/
def ofRaw (s : String) : Bytes := s.toList.map fun c => UInt8.ofNat c.toNat

/-- A text in that form. -/
def raw (s : String) : String := toRaw (ofText s)

end Bytes

/-- Octets that may never end. -/
structure Flow where
  bytes : Bytes
  cycle : Bytes
  deriving DecidableEq, Repr

namespace Flow

/-- Nothing. -/
def empty : Flow := ⟨[], []⟩

/-- Some octets and then the end. -/
def ofBytes (bytes : Bytes) : Flow := ⟨bytes, []⟩

/-- The octets of a text in raw form. -/
def ofRaw (s : String) : Flow := ofBytes (Bytes.ofRaw s)

/-- Zeros without end. -/
def zeros : Flow := ⟨[], [0]⟩

/-- Whether a flow has an end. -/
def ends (f : Flow) : Bool := f.cycle.isEmpty

/-- The first `n` octets. -/
def take (f : Flow) (n : Nat) : Bytes :=
  if n ≤ f.bytes.length ∨ f.ends then f.bytes.take n
  else
    let missing := n - f.bytes.length
    let turns := missing / f.cycle.length + 1
    f.bytes ++ ((List.replicate turns f.cycle).flatten).take missing

/-- What is left after the first `n` octets. -/
def drop (f : Flow) (n : Nat) : Flow :=
  if n ≤ f.bytes.length ∨ f.ends then { f with bytes := f.bytes.drop n }
  else
    let into := (n - f.bytes.length) % f.cycle.length
    ⟨if into = 0 then [] else f.cycle.drop into, f.cycle⟩

/-- Every octet replaced. -/
def flatMap (f : Flow) (g : UInt8 → Bytes) : Flow := ⟨f.bytes.flatMap g, f.cycle.flatMap g⟩

/-- One flow after another; nothing comes after a flow without end. -/
def append (f g : Flow) : Flow := if f.ends then ⟨f.bytes ++ g.bytes, g.cycle⟩ else f

/-- How much of a flow without end is looked at where all of it is asked for. -/
def window : Nat := 65536

/-- The octets of a flow, or a first window of one without end. -/
def toBytes (f : Flow) : Bytes := if f.ends then f.bytes else f.take (f.bytes.length + window)

/-- Octets cut into lines; each line keeps its newline. -/
def lines (bytes : Bytes) : List Bytes :=
  let pieces := bytes.splitOn Bytes.newline
  (pieces.dropLast.map (· ++ [Bytes.newline])) ++
    match pieces.getLast? with
    | some [] => []
    | some last => [last]
    | none => []

/-- The first `n` lines, and what is left after them.  Every turn of a cycle that holds a
newline gives a line at least. -/
def takeLines (f : Flow) (n : Nat) : Bytes × Flow :=
  let shown :=
    if f.cycle.contains Bytes.newline then f.take (f.bytes.length + n * f.cycle.length)
    else f.toBytes
  let first := ((lines shown).take n).flatten
  (first, f.drop first.length)

end Flow

end Outflow
