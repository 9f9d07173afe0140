import Outflow.Host.Program
import Outflow.Host.Utility.Basic

/-!
# Programs that tell about their surroundings

Variables, the user, and the system.
-/

namespace Outflow.Utility

/-- Write variables. -/
def printenv (o : Occasion) : Effect :=
  match o.args.filter (· ≠ "--") with
  | [] => printLines o (o.env.map fun (k, v) => s!"{k}={v}")
  | names =>
    let values := names.map fun name => (o.env.find? (·.1 = name)).map (·.2)
    { printLines o (values.filterMap id) with
      status := if values.all Option.isSome then 0 else 1 }

/-- Write who the user is. -/
def id' (o : Occasion) : Effect :=
  withFlags o 1 "ugGnr" [("user", 'u'), ("group", 'g'), ("groups", 'G'), ("name", 'n')]
  fun flags =>
    match flags.operands.find? (· ≠ "root") with
    | some name => complain o 1 s!"{quoted name}: no such user"
    | none =>
      if flags.has 'u' || flags.has 'g' || flags.has 'G' then
        printLines o [if flags.has 'n' then "root" else "0"]
      else printLines o ["uid=0(root) gid=0(root) groups=0(root)"]

/-- Write the name of the user. -/
def whoami (o : Occasion) : Effect :=
  match o.args with
  | [] => printLines o ["root"]
  | extra :: _ => misuse o 1 s!"extra operand {quoted extra}"

/-- Write the name of the system. -/
def uname (o : Occasion) : Effect :=
  withFlags o 1 "asnrvmpio" [("kernel-name", 's'), ("machine", 'm'), ("operating-system", 'o')]
  fun flags =>
    match flags.operands with
    | extra :: _ => misuse o 1 s!"extra operand {quoted extra}"
    | [] =>
      let parts := (if flags.has 's' || flags.options.isEmpty then ["Linux"] else []) ++
        (if flags.has 'm' then ["x86_64"] else []) ++
        (if flags.has 'o' then ["GNU/Linux"] else [])
      printLines o [joined parts]

/-- Write the groups of users. -/
def groups (o : Occasion) : Effect :=
  match o.args with
  | [] => printLines o ["root"]
  | names =>
    let known := names.filter (· = "root")
    let unknown := names.filter (· ≠ "root")
    finish o (if unknown.isEmpty then 0 else 1)
      (unknown.map (fun name => grumble o s!"{quoted name}: no such user") ++
        known.map fun name => .out (.ofRaw s!"{name} : root\n"))

/-- Write the kind of the machine. -/
def arch (o : Occasion) : Effect :=
  match o.args with
  | [] => printLines o ["x86_64"]
  | extra :: _ => misuse o 1 s!"extra operand {quoted extra}"

/-- Write the name with which the user came in: there is none. -/
def logname (o : Occasion) : Effect :=
  match o.args with
  | [] => complain o 1 "no login name"
  | extra :: _ => misuse o 1 s!"extra operand {quoted extra}"

/-- See to it that all files are written: they are. -/
def sync (o : Occasion) : Effect :=
  let missing := o.args.filterMap fun path =>
    match o.files.look o.dir path with
    | .ok _ => none
    | .error e => some (grumble o s!"error opening {shellQuoted path}: {errorText e}")
  finish o (if missing.isEmpty then 0 else 1) missing

/-- Write where programs are found. -/
def which (o : Occasion) : Effect :=
  match Grammar.read ⟨"as".toList, [], false⟩ o.args with
  | .error message =>
    let letter := ((message.toList.reverse.drop 1).take 1)
    finish o 2 [.err (Bytes.ofRaw s!"Illegal option -{String.ofList letter}\n"),
      .out (.ofRaw "Usage: /usr/bin/which [-as] args\n")]
  | .ok flags =>
    let searchPath := ((o.env.find? (·.1 = "PATH")).map (·.2)).getD ""
    let found (name : String) : List String :=
      (Program.candidates searchPath name).filter fun path =>
        match o.files.look o.dir path with
        | .ok node => node.isFile && node.isExecutable
        | .error _ => false
    let shown (name : String) : List String :=
      if flags.has 'a' then found name else (found name).take 1
    let all := flags.operands.flatMap shown
    { printLines o (if flags.has 's' then [] else all) with
      status := if flags.operands ≠ [] && flags.operands.all fun name => !(found name).isEmpty
        then 0 else 1 }

/-- Write the name of the terminal. -/
def tty (o : Occasion) : Effect :=
  withFlags o 2 "s" [("silent", 's'), ("quiet", 's')] fun flags =>
    let e := if flags.has 's' then silent o 1 else { printLines o ["not a tty"] with status := 1 }
    match flags.operands with
    | extra :: _ => misuse o 2 s!"extra operand {quoted extra}"
    | [] => e

end Outflow.Utility
