import Outflow.Text.Bytes

/-!
# Limits

What processes may use, and how a shell shows and changes that.  A limit in force never lies above
the one that it may be raised to, and the latter only ever goes down.
-/

namespace Outflow.Shell

/-- What a process may use of something. -/
structure Limit where
  /-- The letter by which it is asked for. -/
  letter : Char
  /-- What is in force. -/
  soft : Nat
  /-- What it may be raised to. -/
  hard : Nat

namespace Limit

/-- A value that stands for no limit. -/
def unlimited : Nat := Nat.pow 2 64 - 1

/-- What can be limited: what it is called, by which letter it is asked for, and in which
units. -/
def kinds : List (String × Char × Nat) :=
  [("time(seconds)", 't', 1), ("file(blocks)", 'f', 512), ("data(kbytes)", 'd', 1024),
   ("stack(kbytes)", 's', 1024), ("coredump(blocks)", 'c', 512), ("memory(kbytes)", 'm', 1024),
   ("locked memory(kbytes)", 'l', 1024), ("process", 'p', 1), ("nofiles", 'n', 1),
   ("vmemory(kbytes)", 'v', 1024), ("locks", 'w', 1), ("rtprio", 'r', 1)]

/-- The letters of limits. -/
def letters : String := String.ofList (kinds.map (·.2.1))

/-- The unit of a limit. -/
def unit (letter : Char) : Nat :=
  match kinds.find? (·.2.1 = letter) with
  | some (_, _, unit) => unit
  | none => 1

/-- The limits of a process that nobody has limited. -/
def common : List Limit :=
  kinds.map fun (_, letter, _) =>
    match letter with
    | 's' => ⟨'s', 8388608, unlimited⟩
    | 'c' => ⟨'c', 0, unlimited⟩
    | 'l' => ⟨'l', 8388608, 8388608⟩
    | 'n' => ⟨'n', 1048576, 1048576⟩
    | 'r' => ⟨'r', 0, 0⟩
    | letter => ⟨letter, unlimited, unlimited⟩

/-- The limit of a letter. -/
def find (limits : List Limit) (letter : Char) : Limit :=
  (limits.find? (·.letter = letter)).getD ⟨letter, unlimited, unlimited⟩

/-- A limit in its unit, the one in force or the one that it may be raised to. -/
def text (isHard : Bool) (l : Limit) : String :=
  let value := if isHard then l.hard else l.soft
  if value = unlimited then "unlimited" else toString (value / unit l.letter)

/-- A line for each of some limits. -/
def lines (isHard : Bool) (limits : List Limit) : List String :=
  kinds.map fun (name, letter, _) =>
    name ++ "".pushn ' ' (20 - name.length) ++ " " ++ (find limits letter).text isHard

/-- Which values of a limit are meant. -/
inductive Reach where
  | soft
  | hard
  | both
  deriving DecidableEq

/-- A value for a limit that is given in its unit; values are counted in words of 64 bits. -/
def value? (letter : Char) (text : String) : Option Nat :=
  if text = "unlimited" then some unlimited
  else if text.toList.all Char.isDigit then
    some ((text.toNat?.getD 0 * unit letter) % Nat.pow 2 64)
  else none

/-- Change a limit, or say why that cannot be done. -/
def change (limits : List Limit) (reach : Reach) (letter : Char) (value : Nat) :
    Except String (List Limit) :=
  let old := find limits letter
  let new : Limit :=
    { old with
      soft := if reach = .hard then old.soft else value
      hard := if reach = .soft then old.hard else value }
  if new.hard < new.soft then .error "error setting limit (Invalid argument)"
  else if old.hard < new.hard then .error "error setting limit (Operation not permitted)"
  else .ok (new :: limits.filter (·.letter ≠ letter))

end Limit

end Outflow.Shell
