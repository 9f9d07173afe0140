import Outflow.Shell.Builtin
import Outflow.Shell.Fields

/-!
# Parameters

What the parameters of a shell stand for, and the directories that tildes stand for.
-/

namespace Outflow.Shell

namespace Session

/-- What stands between arguments that are joined. -/
def glue (s : Session) : List Char := ((s.value? "IFS").getD " ").toList.take 1

/-- The value of a parameter. -/
def parameter? (s : Session) (name : String) : Option String :=
  match name with
  | "?" => some (toString s.status)
  | "#" => some (toString s.arguments.length)
  | "$" => some (toString s.leader)
  | "!" => s.lastJob.map toString
  | "-" => some (Builtin.optionText s)
  | "@" => some (Utility.joined s.arguments)
  | "*" => some (Utility.joined s.arguments)
  | name =>
    match Utility.readNat name with
    | some 0 => some s.name
    | some n => s.arguments[n - 1]?
    | none => s.value? name

/-- The character that stands for the boundary between two arguments, which hold no such one. -/
def boundary : Char := '\x00'

/-- The text of a parameter, with boundaries between arguments. -/
def parameterText (s : Session) (name value : String) (isQuoted : Bool) : List Char :=
  let all (between : List Char) : List Char := between.intercalate (s.arguments.map String.toList)
  match name, isQuoted with
  | "@", _ => all [boundary]
  | "*", false => all [boundary]
  | "*", true => all s.glue
  | _, _ => value.toList

/-- The marks of such a text.  Between quotes every argument makes a field. -/
def textMarks (isQuoted : Bool) (cs : List Char) : List Mark :=
  cs.flatMap fun c =>
    if c = boundary then if isQuoted then [.quotes, .gap, .quotes] else [.gap]
    else [.char c isQuoted (!isQuoted)]

/-- Marks where no fields are wanted, so that arguments are joined. -/
def withoutGaps (s : Session) (marks : List Mark) : List Mark :=
  marks.flatMap fun
    | .gap => Mark.ofText s.glue true false
    | mark => [mark]

/-! ### Homes -/

/-- The directory of a user, or without a name of the one that the shell works for. -/
def home? (s : Session) (name : List Char) : Option String :=
  if name.isEmpty then s.value? "HOME" else if name = "root".toList then some "/root" else none

/-- The name after a tilde, if it can be one, and what follows it. -/
def takeUser (ends : Char → Bool) : Word → Option (List Char × Word)
  | [] => some ([], [])
  | .text [c] false :: rest =>
    if ends c then some ([], .text [c] false :: rest)
    else (takeUser ends rest).map fun (name, rest) => (c :: name, rest)
  | _ => none

/-- Put the directory that it stands for in the place of a tilde at the start of a word. -/
def openTilde (s : Session) (ends : Char → Bool) (w : Word) : Word :=
  match w with
  | .text ['~'] false :: rest =>
    match takeUser ends rest with
    | none => w
    | some (name, after) =>
      match s.home? name with
      | some home => .text home.toList true :: after
      | none => w
  | w => w

/-- The same in a word that is a value, in which a tilde may also follow a colon.  Fuel is the
length of the word. -/
def openTildes (s : Session) (fuel : Nat) (atStart : Bool) (w : Word) : Word :=
  let ends (c : Char) : Bool := c = '/' || c = ':'
  match fuel, (if atStart then s.openTilde ends w else w) with
  | fuel + 1, .text [c] false :: rest => .text [c] false :: s.openTildes fuel (c = ':') rest
  | fuel + 1, p :: rest => p :: s.openTildes fuel false rest
  | _, w => w

end Session

end Outflow.Shell
