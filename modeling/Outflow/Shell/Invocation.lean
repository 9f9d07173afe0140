import Outflow.Host.Machine
import Outflow.Shell.Builtin

/-!
# How a shell is started

What the arguments of a shell ask for, and what a shell knows when it begins.
-/

namespace Outflow.Shell

/-- Where a shell takes its program from. -/
inductive Script where
  | text (cs : List Char)
  | input
  | file (path : String)

/-- What the arguments of a shell ask for. -/
structure Invocation where
  script : Script
  /-- What the shell calls itself. -/
  name : String
  arguments : List String
  switches : List (Bool × Char)

namespace Invocation

/-- Read the arguments of a shell that was called by a name; or say what is wrong. -/
def read (name : String) (args : List String) : Except String Invocation :=
  match Builtin.readSwitches ['c', 'l'] args with
  | .error option => .error s!"Illegal option {option}"
  | .ok w =>
    let has (c : Char) : Bool := w.switches.any (· = (true, c))
    let switches := w.switches.filter fun (_, c) => c ≠ 'c' && c ≠ 'l'
    match has 'c', w.arguments.getD [] with
    | true, [] => .error "-c requires an argument"
    | true, [text] => .ok ⟨.text text.toList, name, [], switches⟩
    | true, text :: name :: arguments => .ok ⟨.text text.toList, name, arguments, switches⟩
    | false, [] => .ok ⟨.input, name, [], switches ++ [(true, 's')]⟩
    | false, first :: rest =>
      if has 's' then .ok ⟨.input, name, first :: rest, switches⟩
      else .ok ⟨.file first, first, rest, switches⟩

end Invocation

/-- The prompts of a shell, which also mark the lines that it shows while it runs. -/
def promptVars : List (String × String) := [("PS1", "# "), ("PS2", "> "), ("PS4", "+ ")]

/-- The way to the working directory: the one that the environment gives, if it leads there. -/
def Session.givenWay (s : Session) : List String :=
  match s.value? "PWD" with
  | none => s.dir
  | some path =>
    if Files.isAbsolute path && (s.world.files.resolve [] path).toOption == some s.dir then
      (Files.names path).filter (· ≠ "")
    else s.dir

/-- A process that becomes a shell. -/
def Session.begin (s : Session) (i : Invocation) : Session :=
  let way := s.givenWay
  let s := { s with
    traps := [], deafTo := (s.traps.filter (·.2 = "")).map (·.1) ++ s.deafTo, pending := []
    leader := s.pid, name := i.name, arguments := i.arguments, command := none, frames := []
    functions := [], aliases := [], hashed := [], status := 0, substituted := none, options := []
    isGuarded := false, loops := 0, line := 1, optionIndex := 1
    optionOffset := none, actions := 0, interrupted := none, jobs := [], lastJob := none, way
    vars := s.vars.filter fun v => v.isExported && v.value.isSome && isName v.name.toList }
  let ifUnset (s : Session) (v : String × String) : Session :=
    if (s.value? v.1).isSome then s else s.setValue v.1 v.2
  let s := (promptVars ++ [("PATH", Machine.searchPath)]).foldl ifUnset s
  let parent := toString s.parent
  let s := (((s.setValue "IFS" " \t\n").setValue "OPTIND" "1").setValue "PPID" parent).putVariable
    ⟨"PWD", some (Utility.pathText way), true, false⟩
  i.switches.foldl (fun s (on, c) => Builtin.switch on c s) s

end Outflow.Shell
