import Outflow.Host.Flow

/-!
# How two texts differ

The lines of one text that have to be removed, and the lines that have to be put in their place,
to get the other one.  As many lines as possible stay, and changes come as late as they can.
Lines are compared by a key, so that differences that do not matter can be left out.
-/

namespace Outflow

/-- A place where texts differ. -/
structure Hunk where
  /-- The lines of the first text in front of it. -/
  before : Nat
  /-- The lines of the second text in front of it. -/
  placed : Nat
  removed : List Bytes
  added : List Bytes
  deriving DecidableEq, Repr

/-- A line with what it is compared by. -/
structure KeyedLine where
  text : Bytes
  key : Bytes

namespace Difference

/-- How many lines the ends of two texts can share at most: for one more line in front of the
first of them, from the numbers without it, for every end of the second, the longest first. -/
def sharedRow (x : KeyedLine) (ys : List KeyedLine) (row : List Nat) : List Nat :=
  match ys, row with
  | y :: ys, n :: below =>
    let rest := sharedRow x ys below
    (if x.key = y.key then below.headD 0 + 1 else max n (rest.headD 0)) :: rest
  | _, row => row

/-- The numbers for all ends of the first text, the longest first. -/
def sharedRows (xs ys : List KeyedLine) : List (List Nat) :=
  match xs with
  | [] => [List.replicate (ys.length + 1) 0]
  | x :: xs =>
    let rows := sharedRows xs ys
    sharedRow x ys (rows.headD []) :: rows

/-- A step on the way from one text to the other. -/
inductive Step where
  | keep (line : Bytes)
  | remove (line : Bytes)
  | add (line : Bytes)

/-- The steps from one text to the other.  A line that both begin with stays. -/
def stepsWith (rows : List (List Nat)) : List KeyedLine → List KeyedLine → List Step
  | [], ys => ys.map (.add ·.text)
  | xs, [] => xs.map (.remove ·.text)
  | x :: xs, y :: ys =>
    if x.key = y.key then .keep x.text :: stepsWith ((rows.drop 1).map (·.drop 1)) xs ys
    else
      let below := ((rows.drop 1).headD []).headD 0
      let after := ((rows.headD []).drop 1).headD 0
      if after ≤ below then .remove x.text :: stepsWith (rows.drop 1) xs (y :: ys)
      else .add y.text :: stepsWith (rows.map (·.drop 1)) (x :: xs) ys
termination_by xs ys => xs.length + ys.length

/-- The number of lines that two texts begin with alike. -/
def alike : List KeyedLine → List KeyedLine → Nat
  | x :: xs, y :: ys => if x.key = y.key then alike xs ys + 1 else 0
  | _, _ => 0

/-- The steps from one text to the other.  What both begin and end with is set aside. -/
def steps (xs ys : List KeyedLine) : List Step :=
  let front := alike xs ys
  let as := xs.drop front
  let bs := ys.drop front
  let back := alike as.reverse bs.reverse
  let as := as.take (as.length - back)
  let bs := bs.take (bs.length - back)
  let kept (lines : List KeyedLine) : List Step := lines.map (.keep ·.text)
  kept (xs.take front) ++ stepsWith (sharedRows as bs) as bs ++ kept (xs.drop (xs.length - back))

/-- The places where steps change something, after some lines of each text. -/
def hunksOf (before placed : Nat) (open? : Option Hunk) : List Step → List Hunk
  | [] => open?.toList
  | .keep _ :: rest => open?.toList ++ hunksOf (before + 1) (placed + 1) none rest
  | .remove line :: rest =>
    let h := open?.getD ⟨before, placed, [], []⟩
    hunksOf (before + 1) placed (some { h with removed := h.removed ++ [line] }) rest
  | .add line :: rest =>
    let h := open?.getD ⟨before, placed, [], []⟩
    hunksOf before (placed + 1) (some { h with added := h.added ++ [line] }) rest

/-- The places where two texts differ, by the keys of their lines. -/
def hunks (key : Bytes → Bytes) (a b : List Bytes) : List Hunk :=
  let keyed (line : Bytes) : KeyedLine := ⟨line, key line⟩
  hunksOf 0 0 none (steps (a.map keyed) (b.map keyed))

end Difference

/-- Places that are shown together: at most so many lines that stay lie between them. -/
def Hunk.grouped (between : Nat) (hs : List Hunk) : List (List Hunk) :=
  hs.foldr
    (fun h groups =>
      match groups with
      | (next :: group) :: others =>
        if next.before ≤ h.before + h.removed.length + between then
          (h :: next :: group) :: others
        else [h] :: (next :: group) :: others
      | others => [h] :: others)
    []

end Outflow
