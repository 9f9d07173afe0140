import Outflow.Duration
import Outflow.Text.Blank
import Outflow.Text.ShellQuote

/-!
# Commands

A `Command` is one invocation of an external program.  Its argument vector starts with a
program name that is not blank: the invariant is part of the type, so no option can break it.

The environment of a command is an overlay on the inherited one, an `Overlay`: each name once,
in the order in which the names were first set.
-/

namespace Outflow

/-- Variables laid over the inherited environment. -/
abbrev Overlay := List (String × String)

namespace Overlay

/-- Set a variable; the last value of a name counts. -/
def insert (o : Overlay) (name value : String) : Overlay :=
  match o with
  | [] => [(name, value)]
  | (n, v) :: rest => if n = name then (n, value) :: rest else (n, v) :: insert rest name value

/-- Set several variables in order. -/
def insertAll (o : Overlay) (vars : List (String × String)) : Overlay :=
  vars.foldl (fun o (n, v) => o.insert n v) o

/-- The value of a variable. -/
def get? (o : Overlay) (name : String) : Option String := (o.find? (·.1 = name)).map (·.2)

@[simp] theorem get?_nil (name : String) : get? [] name = none := rfl

/-- Setting a variable shows in that variable and in no other. -/
theorem get?_insert (o : Overlay) (name value n : String) :
    (o.insert name value).get? n = if n = name then some value else o.get? n := by
  induction o with
  | nil => by_cases h : n = name <;> simp [insert, get?, h, eq_comm]
  | cons p rest ih =>
    obtain ⟨m, v⟩ := p
    unfold get? at ih
    by_cases hm : m = name <;> by_cases hn : n = name <;> by_cases hmn : m = n <;>
      simp_all [insert, get?]

end Overlay

/-- Whether the output of a command is read, or left to the streams of this process. -/
inductive CaptureMode where
  | captured
  | discarded
  deriving DecidableEq, Repr

/-- The name of a capture mode. -/
def CaptureMode.name : CaptureMode → String
  | captured => "captured"
  | discarded => "discarded"

/-- One invocation of an external program. -/
@[ext] structure Command where
  program : String
  /-- The arguments after the program name. -/
  arguments : List String
  program_not_blank : Text.blank program = false
  workingDir : Option String
  /-- Variables laid over the inherited environment. -/
  env : Option Overlay
  capture : CaptureMode
  /-- Whether lines are forwarded as they complete. -/
  live : Bool
  timeout : Option Duration
  deriving DecidableEq

namespace Command

/-- The program and its arguments. -/
def args (c : Command) : List String := c.program :: c.arguments

/-- The command line, quoted for a shell. -/
def display (c : Command) : String := Text.shellJoin c.args

/-- A command with every option at its default. -/
def plain (program : String) (arguments : List String) (h : Text.blank program = false) :
    Command where
  program := program
  arguments := arguments
  program_not_blank := h
  workingDir := none
  env := none
  capture := .captured
  live := false
  timeout := none

/-- The command of an argument vector, if that begins with a program name. -/
def ofArgs? : List String → Option Command
  | [] => none
  | program :: arguments =>
    if h : Text.blank program = false then some (plain program arguments h) else none

/-- The vectors that make a command are those that begin with a name that is not blank. -/
theorem isSome_ofArgs? (args : List String) :
    (ofArgs? args).isSome = true ↔ ∃ p as, args = p :: as ∧ Text.blank p = false := by
  cases args with
  | nil => simp [ofArgs?]
  | cons p as => by_cases h : Text.blank p = false <;> simp [ofArgs?, h]

/-- A command keeps its argument vector. -/
theorem args_ofArgs? {args : List String} {c : Command} (h : ofArgs? args = some c) :
    c.args = args := by
  cases args with
  | nil => simp [ofArgs?] at h
  | cons p as =>
    by_cases hp : Text.blank p = false
    · simp only [ofArgs?, hp, dite_true, Option.some.injEq] at h
      subst h; rfl
    · simp [ofArgs?, hp] at h

/-- One option of a command, set. -/
inductive Setting where
  | workingDir (dir : String)
  /-- Replace the whole overlay. -/
  | env (vars : List (String × String))
  | capture (mode : CaptureMode)
  | live (enabled : Bool)
  | timeout (limit : Duration)

/-- Set one option; the argument vector stays. -/
def set (c : Command) : Setting → Command
  | .workingDir dir => { c with workingDir := some dir }
  | .env vars => { c with env := some (Overlay.insertAll [] vars) }
  | .capture mode => { c with capture := mode }
  | .live enabled => { c with live := enabled }
  | .timeout limit => { c with timeout := some limit }

@[simp] theorem args_set (c : Command) (s : Setting) : (c.set s).args = c.args := by
  cases s <;> rfl

end Command

end Outflow
