import Outflow.Host.Utility.Condition
import Outflow.Shell.Act
import Outflow.Shell.Reader

/-!
# Commands inside the shell

The commands that a shell carries out itself and that run no other commands.  Each gives a
status.  A wrong use of a special command ends the shell; of any other, only that command.
-/

namespace Outflow.Shell.Builtin

/-- Complain, and give a status. -/
def grumble (message : String) (status : Nat) : Act Nat := do
  complain message
  return status

/-- Write the output of a command, whose status is made worse if that cannot be done. -/
def writeWith (name : String) (bytes : Bytes) (status : Nat) : Act Nat := do
  match ← emit 1 bytes with
  | none => return status
  | some _ => grumble s!"{name}: I/O error" (max status 1)

/-- Write the output of a command. -/
def write (name text : String) : Act Nat := writeWith name (Bytes.ofRaw text) 0

/-- Write lines. -/
def writeLines (name : String) (ls : List String) : Act Nat :=
  write name (String.join (ls.map (· ++ "\n")))

/-- Characters between single quotes; quotes among them stand between double quotes. -/
def quotedParts : (fuel : Nat) → List Char → List Char
  | 0, _ => []
  | fuel + 1, cs =>
    let plain := cs.takeWhile (· ≠ '\'')
    let rest := cs.drop plain.length
    let quotes := rest.takeWhile (· = '\'')
    let rest := rest.drop quotes.length
    '\'' :: plain ++ '\'' ::
      if quotes.isEmpty then []
      else '"' :: quotes ++ '"' :: if rest.isEmpty then [] else quotedParts fuel rest

/-- A text between single quotes; a quote itself stands between double quotes. -/
def singleQuoted (s : String) : String :=
  String.ofList (quotedParts (s.length + 1) s.toList)

/-- Read the letters that stand together in one argument. -/
def readLetters (g : Grammar) (rest : List String) :
    List Char → Act (List (Char × String) × List String)
  | [] => return ([], rest)
  | c :: cs =>
    match g.demand? c with
    | none => fail s!"Illegal option -{String.singleton c}"
    | some .value =>
      if !cs.isEmpty then return ([(c, String.ofList cs)], rest)
      else
        match rest with
        | value :: rest => return ([(c, value)], rest)
        | [] => fail s!"No arg for -{String.singleton c} option"
    | some _ => do
      let (options, rest) ← readLetters g rest cs
      return ((c, "") :: options, rest)

/-- Read the options of a command.  Fuel is the number of its arguments. -/
def readOptions (letters : String) (fuel : Nat) (args : List String) :
    Act (List (Char × String) × List String) := do
  match fuel, args with
  | fuel + 1, arg :: rest =>
    match arg.toList with
    | ['-', '-'] => return ([], rest)
    | '-' :: c :: cs => do
      let (options, rest) ← readLetters ⟨letters.toList, [], false⟩ rest (c :: cs)
      let (more, rest) ← readOptions letters fuel rest
      return (options ++ more, rest)
    | _ => return ([], args)
  | _, _ => return ([], args)

/-- The options of a command, and its operands. -/
def optionsOf (letters : String) (args : List String) : Act (List (Char × String) × List String) :=
  readOptions letters args.length args

/-- The operands of a command that knows no options. -/
def operandsOf (args : List String) : Act (List String) := return (← optionsOf "" args).2

/-- The number that an argument gives, between zero and the largest whole number of 32 bits. -/
def number (arg : String) : Act Nat := do
  let cs := arg.toList.dropWhile Char.isWhitespace
  let (negative, cs) := match cs with
    | '-' :: cs => (true, cs)
    | '+' :: cs => (false, cs)
    | cs => (false, cs)
  let digits := cs.takeWhile Char.isDigit
  let rest := (cs.drop digits.length).dropWhile Char.isWhitespace
  let n := valueIn 10 digits
  if digits.isEmpty || !rest.isEmpty || (negative && n ≠ 0) || Nat.pow 2 31 ≤ n then
    fail s!"Illegal number: {arg}"
  else return n

/-! ### Text -/

/-- Write the arguments, with their escapes read. -/
def echo (args : List String) : Act Nat := do
  let quiet := args.head? == some "-n"
  let words := if quiet then args.drop 1 else args
  let (bytes, stop) := Format.unescape false (Utility.joined words)
  writeWith "echo" (bytes ++ if quiet || stop then [] else [Bytes.newline]) 0

/-- The complaint about something in a format that cannot be used, and the status that it leads
to. -/
def misfit : Format.Misfit → Option (String × Nat)
  | .number arg true => some (s!"{arg}: not completely converted", 1)
  | .number arg false => some (s!"{arg}: expected numeric value", 1)
  | .range arg => some (s!"{arg}: Numerical result out of range", 1)
  | .directive text => some (s!"{text}: invalid directive", 2)
  | .unfinished _ => some ("missing format character", 2)
  | .size .. => none
  | .escape => none
  | .surplus _ => none
  | .length => some ("xvsnprintf failed", 2)
  | .excess _ => none

/-- Write formatted arguments. -/
def printf (args : List String) : Act Nat := do
  match ← operandsOf args with
  | [] => fail "usage: printf format [arg ...]"
  | format :: args =>
    let (bytes, bad) := Format.output ⟨.double, false⟩ format args
    let faults := bad.filterMap misfit
    faults.forM fun (text, _) => complain text
    writeWith "printf" bytes (faults.foldl (fun status (_, n) => max status n) 0)

/-- The time at which machines start, in microseconds from the beginning of 1970. -/
def epoch : Nat := 1700000000000000

/-- What a small program would find here. -/
def occasion : Act Occasion := do
  let s ← get
  return ⟨"", [], .ok .empty, false, s.world.files, s.dir, s.environment, s.umask,
    epoch + s.world.clock, none, none⟩

/-- The wording of a fault in a condition. -/
def conditionText : ConditionFault → String
  | .unexpected "" _ => "unexpected operator"
  | .unexpected word _ => s!"{word}: unexpected operator"
  | .missing op => s!"{op}: argument expected"
  | .openParen => "closing paren expected"
  | .noNumber word => s!"Illegal number: {word}"

/-- Test a condition. -/
def test (args : List String) : Act Nat := do
  match Condition.value (← occasion) args with
  | .ok true => return 0
  | .ok false => return 1
  | .error e => fail (conditionText e)

/-- Test a condition in brackets. -/
def bracket (args : List String) : Act Nat := do
  if args.getLast? = some "]" then test args.dropLast else fail "missing ]"

/-! ### Directories -/

/-- Write the working directory. -/
def pwd (args : List String) : Act Nat := do
  let (options, _) ← optionsOf "LP" args
  let s ← get
  let physical := (options.getLast?.map (·.1)) == some 'P'
  writeLines "pwd" [if physical then Utility.pathText s.dir else Utility.pathText s.way]

/-- The way that a path takes, by its names alone. -/
def wayTo (way : List String) (path : String) : List String :=
  (Files.names path).foldl
    (fun way name =>
      if name = "" || name = "." then way
      else if name = ".." then way.dropLast
      else way ++ [name])
    (if Files.isAbsolute path then [] else way)

/-- Go to a directory.  Tells whether that could be done. -/
def enter (physical : Bool) (path : String) : Act Bool := do
  let s ← get
  let way := wayTo s.way path
  let found := if physical then s.world.files.resolve s.dir path
    else s.world.files.resolve [] (Utility.pathText way)
  match found with
  | .ok dir =>
    if s.world.files.isDirectory dir then
      let way := if physical then dir else way
      let old := Utility.pathText s.way
      let s := (s.putVariable ⟨"OLDPWD", some old, true, false⟩).putVariable
        ⟨"PWD", some (Utility.pathText way), true, false⟩
      set { s with dir, way }
      return true
    else return false
  | .error _ => return false

/-- Change the working directory. -/
def cd (args : List String) : Act Nat := do
  let (options, operands) ← optionsOf "LP" args
  let physical := (options.getLast?.map (·.1)) == some 'P'
  let s ← get
  let back := operands.head? == some "-"
  let path := match operands with
    | [] => (s.value? "HOME").getD ""
    | "-" :: _ => (s.value? "OLDPWD").getD ""
    | path :: _ => path
  let tell : Act Nat := do writeLines "cd" [Utility.pathText (← get).way]
  let dotted := path = "." || path = ".." || path.startsWith "./" || path.startsWith "../"
  let bases := if Files.isAbsolute path || dotted then [] else
    (((s.value? "CDPATH").getD "").toList.splitOn ':').map String.ofList
  -- A directory that is found by another one than the working directory is told.
  let found? := bases.findSome? fun base =>
    if base = "" then none
    else
      let there := Utility.below base path
      match s.world.files.look s.dir there with
      | .ok (.directory _) => some there
      | _ => none
  match found? with
  | some there =>
    if ← enter physical there then tell else fail s!"can't cd to {path}"
  | none =>
    if ← enter physical (if path = "" then "." else path) then
      if back then tell else return 0
    else fail s!"can't cd to {path}"

/-! ### Variables -/

/-- Cut an argument at its equals sign. -/
def cutAssignment (arg : String) : String × Option String :=
  let cs := arg.toList
  let name := cs.takeWhile (· ≠ '=')
  (String.ofList name, if name.length < cs.length
    then some (String.ofList (cs.drop (name.length + 1))) else none)

/-- Set a variable, unless it must not be. -/
def assign (name value : String) : Act Unit := do
  let s ← get
  if (s.binding? name).any (·.isReadOnly) then fail s!"{name}: is read only"
  else set (s.setValue name value)

/-- Variables with their values, in order, each after a word. -/
def variableLines (front : String) (vars : List Variable) : List String :=
  let sorted := vars.mergeSort fun a b => Utility.textLe a.name b.name
  sorted.map fun v =>
    front ++ v.name ++ match v.value with | some x => "=" ++ singleQuoted x | none => ""

/-- Mark variables, and set those that come with a value. -/
def mark (name : String) (f : Variable → Variable) (shown : Variable → Bool)
    (args : List String) : Act Nat := do
  let (options, operands) ← optionsOf "p" args
  if !options.isEmpty || operands.isEmpty then
    writeLines name (variableLines (name ++ " ") ((← get).vars.filter shown))
  else
    operands.forM fun arg => do
      let (target, value) := cutAssignment arg
      if !isName target.toList then fail s!"{target}: bad variable name"
      if let some value := value then assign target value
      modify fun s => s.putVariable (f (s.variableOf target))
    return 0

/-- Forget variables or functions. -/
def unset (args : List String) : Act Nat := do
  let (options, names) ← optionsOf "vf" args
  let functions := (options.getLast?.map (·.1)) == some 'f'
  names.forM fun name => do
    let s ← get
    if functions then set { s with functions := s.functions.filter (·.1 ≠ name) }
    else if !isName name.toList then fail s!"{name}: bad variable name"
    else if (s.binding? name).any (·.isReadOnly) then fail s!"{name}: is read only"
    else
      let s := s.noticeChange name none
      set { s with vars := s.vars.filter (·.name ≠ name) }
  return 0

/-- Give variables a life that ends with the function. -/
def locals (args : List String) : Act Nat := do
  if (← get).frames.isEmpty then fail "not in a function"
  args.forM fun arg => do
    let (name, value) := cutAssignment arg
    let s ← get
    match s.frames with
    | [] => pure ()
    | frame :: frames =>
      set { s with frames := (s.variableOf name :: frame) :: frames }
      if let some value := value then assign name value
  return 0

/-- The options of a shell by their letters and their names. -/
def optionNames : List (Char × String) :=
  [('e', "errexit"), ('f', "noglob"), ('I', "ignoreeof"), ('i', "interactive"), ('m', "monitor"),
   ('n', "noexec"), ('s', "stdin"), ('x', "xtrace"), ('v', "verbose"), ('V', "vi"), ('E', "emacs"),
   ('C', "noclobber"), ('a', "allexport"), ('b', "notify"), ('u', "nounset"), ('L', "nolog"),
   ('D', "debug")]

/-- The letters that can be switched. -/
def optionLetters : List Char := "efIimnsxvVECabu".toList

/-- Switch an option. -/
def switch (on : Bool) (c : Char) (s : Session) : Session :=
  let others := s.options.filter (· ≠ c)
  { s with options := if on then c :: others else others }

/-- The letters of the options that are on. -/
def optionText (s : Session) : String := String.ofList (optionLetters.reverse.filter s.has)

/-- All options and whether they are on. -/
def optionLines (plain : Bool) (s : Session) : List String :=
  if plain then
    optionNames.map fun (c, name) => (if s.has c then "set -o " else "set +o ") ++ name
  else
    "Current option settings" :: optionNames.map fun (c, name) =>
      name ++ "".pushn ' ' (16 - name.length) ++ if s.has c then "on" else "off"

/-- How options are set: what is to be switched, and what follows. -/
structure Switching where
  switches : List (Bool × Char)
  /-- Options are to be listed, in the plain form or not. -/
  lists : Option Bool
  /-- What is left, if anything is said about the arguments. -/
  arguments : Option (List String)

/-- Read switches in front of arguments; an error says which option is unknown. -/
def readSwitches (extra : List Char) : List String → Except String Switching
  | [] => .ok ⟨[], none, none⟩
  | "--" :: args => .ok ⟨[], none, some args⟩
  | "-" :: args =>
    .ok ⟨[(false, 'x'), (false, 'v')], none, if args.isEmpty then none else some args⟩
  | arg :: rest =>
    let go (on : Bool) (cs : List Char) : Except String Switching :=
      match cs.find? fun c => c ≠ 'o' && !optionLetters.contains c && !extra.contains c with
      | some c => .error s!"-{String.singleton c}"
      | none =>
        let letters := (cs.filter (· ≠ 'o')).map (on, ·)
        if !cs.contains 'o' then
          (readSwitches extra rest).map fun s => { s with switches := letters ++ s.switches }
        else
          match rest with
          | [] => .ok ⟨letters, some (!on), none⟩
          | name :: rest =>
            match optionNames.find? (·.2 = name) with
            | none => .error (if on then s!"-o {name}" else s!"+o {name}")
            | some (c, _) =>
              (readSwitches extra rest).map fun s =>
                { s with switches := letters ++ (on, c) :: s.switches }
    match arg.toList with
    | '-' :: cs => go true cs
    | '+' :: cs => go false cs
    | _ => .ok ⟨[], none, some (arg :: rest)⟩

/-- Give up looking after processes as a terminal would, if that was asked for: there is none. -/
def settleMonitor : Act Unit := do
  if (← get).has 'm' then
    modify (switch false 'm')
    complain "can't access tty; job control turned off"

/-- Switch options and set the arguments of the shell. -/
def set' (args : List String) : Act Nat := do
  if args.isEmpty then
    writeLines "set" (variableLines "" ((← get).vars.filter (·.value.isSome)))
  else
    match readSwitches [] args with
    | .error option => fail s!"Illegal option {option}"
    | .ok w =>
      modify fun s => w.switches.foldl (fun s (on, c) => switch on c s) s
      settleMonitor
      if let some arguments := w.arguments then
        modify fun s => { s with arguments, optionIndex := 1, optionOffset := none }
      match w.lists with
      | some plain => writeLines "set" (optionLines plain (← get))
      | none => return 0

/-- Drop the first arguments of the shell. -/
def shift (args : List String) : Act Nat := do
  let n ← match args with
    | [] => pure 1
    | arg :: _ => number arg
  let s ← get
  if s.arguments.length < n then fail "can't shift that many"
  set { s with arguments := s.arguments.drop n, optionIndex := 1, optionOffset := none }
  return 0

/-- Find the next option among some arguments. -/
def getopts (args : List String) : Act Nat := do
  match args with
  | letters :: name :: rest =>
    let s ← get
    let words := if rest.isEmpty then s.arguments else rest
    let quiet := letters.startsWith ":"
    let word (n : Nat) : Option (List Char) := (words[n - 1]?).map String.toList
    -- The rest of the word that is being read, if something of it is left.
    let current : List Char :=
      match s.optionOffset with
      | some offset =>
        if s.optionIndex ≤ 1 then [] else ((word (s.optionIndex - 1)).getD []).drop offset
      | none => []
    let finish (index : Nat) (left : Option (List Char)) (c : Char) : Act Unit := do
      assign "OPTIND" (toString index)
      assign name (String.singleton c)
      let length := ((word (index - 1)).getD []).length
      modify fun s => { s with
        optionIndex := index, optionOffset := left.map fun cs => length - cs.length }
    let read (index : Nat) (c : Char) (cs : List Char) : Act Nat := do
      let g : Grammar := ⟨letters.toList, [], false⟩
      match g.demand? c with
      | none =>
        if quiet then assign "OPTARG" (String.singleton c)
        else
          say 2 s!"Illegal option -{String.singleton c}\n"
          let _ ← unset ["OPTARG"]
        finish index (some cs) '?'
        return 0
      | some .nothing =>
        assign "OPTARG" ""
        finish index (some cs) c
        return 0
      | some _ =>
        match (if cs.isEmpty then word index else some cs) with
        | some value =>
          assign "OPTARG" (String.ofList value)
          finish (if cs.isEmpty then index + 1 else index) none c
          return 0
        | none =>
          if quiet then
            assign "OPTARG" (String.singleton c)
            finish index (some []) ':'
          else
            say 2 s!"No arg for -{String.singleton c} option\n"
            let _ ← unset ["OPTARG"]
            finish index (some []) '?'
          return 0
    match current with
    | c :: cs => read s.optionIndex c cs
    | [] =>
      match word s.optionIndex with
      | some ['-', '-'] =>
        finish (s.optionIndex + 1) none '?'
        return 1
      | some ('-' :: c :: cs) => read (s.optionIndex + 1) c cs
      | _ =>
        finish s.optionIndex none '?'
        return 1
  | _ => fail "Usage: getopts optstring var [arg]"

/-! ### Names -/

/-- Give texts to names, or tell them. -/
def setAliases (args : List String) : Act Nat := do
  let line (a : String × String) : String := a.1 ++ "=" ++ singleQuoted a.2
  if args.isEmpty then
    let sorted := (← get).aliases.mergeSort fun a b => Utility.textLe a.1 b.1
    writeLines "alias" (sorted.map line)
  else
    let mut status := 0
    for arg in args do
      match cutAssignment arg with
      | (name, some value) =>
        modify fun s => { s with aliases := (name, value) :: s.aliases.filter (·.1 ≠ name) }
      | (name, none) =>
        match (← get).aliases.find? (·.1 = name) with
        | some a => status := max status (← writeLines "alias" [line a])
        | none =>
          say 2 s!"alias: {name} not found\n"
          status := 1
    return status

/-- Take texts away from names. -/
def dropAliases (args : List String) : Act Nat := do
  let (options, names) ← optionsOf "a" args
  if !options.isEmpty then
    modify fun s => { s with aliases := [] }
    return 0
  else
    let mut status := 0
    for name in names do
      let s ← get
      if s.aliases.any (·.1 = name) then
        set { s with aliases := s.aliases.filter (·.1 ≠ name) }
      else
        say 2 s!"unalias: {name} not found\n"
        status := 1
    return status

/-- Show or set the permission bits that new files do not get. -/
def umask (args : List String) : Act Nat := do
  let (options, operands) ← optionsOf "S" args
  let s ← get
  match operands with
  | [] =>
    if options.isEmpty then writeLines "umask" [Mode.octal 4 s.umask]
    else
      let part (who : String) (place : Nat) : String :=
        let bits := 7 - (s.umask >>> place &&& 7)
        who ++ "=" ++ String.ofList (([('r', 4), ('w', 2), ('x', 1)].filter fun (_, b) =>
          bits &&& b != 0).map (·.1))
      writeLines "umask" [",".intercalate [part "u" 6, part "g" 3, part "o" 0]]
  | text :: _ =>
    if text.toList.head?.any Char.isDigit then
      if text.toList.all fun c => '0' ≤ c && c ≤ '7' then
        set { s with umask := (valueIn 8 text.toList) &&& 0o777 }
        return 0
      else fail s!"Illegal number: {text}"
    else
      match Mode.changed? 0 false (0o777 - s.umask) text with
      | some mode =>
        set { s with umask := 0o777 - (mode &&& 0o777) }
        return 0
      | none => fail s!"Illegal mode: {text}"

/-! ### Control -/

/-- End the shell. -/
def exit (args : List String) : Act Nat := do
  let s ← get
  let n ← match args with
    | [] => pure (s.interrupted.getD s.status)
    | arg :: _ => number arg
  throw (.exit (n % 256))

/-- End the function, or the shell if it ends at failures and this is one. -/
def ret (args : List String) : Act Nat := do
  let s ← get
  let n ← match args with
    | [] => pure (s.interrupted.getD s.status)
    | arg :: _ => number arg
  if s.has 'e' && !s.isGuarded && n ≠ 0 then throw (.exit (n % 256)) else throw (.return n)

/-- Leave loops. -/
def leave (jump : Nat → Jump) (args : List String) : Act Nat := do
  let n ← match args with
    | [] => pure 1
    | arg :: _ => do
      let n ← number arg
      if n = 0 then fail s!"Illegal number: {arg}" else pure n
  -- Outside of loops there is nothing to leave.
  let loops := (← get).loops
  if loops = 0 then return 0
  setStatus 0
  throw (jump (min n loops))

/-! ### Signals and processes -/

/-- The signal of a name in any case, or of a number. -/
def signal? (name : String) : Option Signal :=
  if name.toUpper = "EXIT" then some 0 else Signal.ofName? name

/-- Arrange for a signal, or, without an action, forget the arrangement. -/
def arrange (signal : Signal) (action : Option String) (s : Session) : Session :=
  let others := s.traps.filter (·.1 ≠ signal)
  { s with traps := others ++ (action.map fun a => (signal, a)).toList }

/-- Arrange for signals. -/
def trap (args : List String) : Act Nat := do
  let put (action : Option String) (names : List String) : Act Nat := do
    for name in names do
      match signal? name with
      | none =>
        say 2 s!"trap: {name}: bad trap\n"
        return 1
      | some n => modify (arrange n action)
    return 0
  match ← operandsOf args with
  | [] =>
    let sorted := (← get).traps.mergeSort fun a b => a.1 ≤ b.1
    writeLines "trap" (sorted.map fun (n, action) =>
      s!"trap -- {singleQuoted action} {Signal.name n}")
  | [name] => put none [name]
  | action :: names =>
    if action = "-" then put none names
    else if action.toList.all Char.isDigit && (signal? action).isSome then
      put none (action :: names)
    else put (some action) names

/-- How often a command looks whether what it waits for has come. -/
def patience : Nat := 100000

/-- The job that an argument names. -/
def jobOf (arg : String) : Act Job := do
  match Job.named (← get).jobs arg with
  | .ok job => return job
  | .error message => fail message

/-- The processes that an argument of `kill` stands for. -/
def targetsOf (arg : String) : Act (List Nat) := do
  let w := (← get).world
  match arg.toList with
  | '%' :: _ => do
    -- The processes of a job are no group, unless its first one has made itself one.
    let job ← jobOf arg
    return ((job.parts.head?).map fun (pid, _) => w.members pid).getD []
  | '-' :: cs => do
    let n ← number (String.ofList cs)
    if n = 1 then return w.living.map (·.1) else return w.members n
  | _ => do
    let n ← number arg
    if n = 0 then return w.members (← get).group
    else return if w.hasProcess n then [n] else []

/-- How signals are to be sent. -/
def killUsage : String :=
  "Usage: kill [-s sigspec | -signum | -sigspec] [pid | job]... or\nkill -l [exitstatus]"

/-- Write the names of signals. -/
def listSignals (operands : List String) : Act Nat := do
  match operands with
  | [] => writeLines "kill" ("0" :: (List.range Signal.last).map fun n => Signal.name (n + 1))
  | arg :: _ =>
    let n ← number arg
    let n := if 128 < n then n - 128 else n
    if 0 < n && n ≤ Signal.last then writeLines "kill" [Signal.name n]
    else fail s!"invalid signal number or exit status: {arg}"

/-- Send signals. -/
def kill (args : List String) : Act Nat := do
  let deliver (signal : Signal) (operands : List String) : Act Nat := do
    let mut status := 0
    if operands.isEmpty then fail killUsage
    for arg in operands do
      match ← targetsOf arg with
      | [] => status ← grumble "No such process\n" 1
      | targets => if signal ≠ 0 then send targets signal
    return status
  match args with
  | [] => fail killUsage
  | arg :: targets =>
    match arg.toList with
    | '-' :: cs =>
      let text := String.ofList cs
      match Signal.ofName? text with
      | some signal => deliver signal targets
      | none =>
        let (options, operands) ← optionsOf "ls:" args
        match options.find? (·.1 = 's') with
        | some (_, name) =>
          match Signal.ofName? name with
          | some signal => deliver signal operands
          | none => fail s!"invalid signal number or name: {name}"
        | none => if options.isEmpty then deliver Signal.term operands else listSignals operands
    | _ => deliver Signal.term args

/-- Remember that jobs have been waited for. -/
def seeJobs (which : Job → Bool) : Act Unit :=
  modify fun s => { s with
    jobs := s.jobs.map fun j => if which j then { j with isSeen := true } else j }

/-- Wait for all jobs, or for a signal that there is an action for. -/
def awaitJobs : (fuel : Nat) → Act Nat
  | 0 => throw .unending
  | fuel + 1 => do
    let _ ← reap
    let s ← get
    let done := (s.jobs.takeWhile Job.isDone).map (·.number)
    seeJobs fun j => done.contains j.number
    if s.jobs.all Job.isDone then return 0
    else
      match s.pending.getLast? with
      | some signal => return 128 + signal
      | none =>
        waitFor [.child, .signal]
        awaitJobs fuel

/-- Wait for a job, or for a signal that there is an action for, and say so if a signal ended one
of the processes of the job.  Gives the status, and whether the job is done. -/
def awaitJob (number : Nat) : (fuel : Nat) → Act (Nat × Bool)
  | 0 => throw .unending
  | fuel + 1 => do
    let found ← reap
    let s ← get
    match s.jobs.find? (·.number = number) with
    | none => return (127, true)
    | some job =>
      let mine := found.filter fun (pid, _) => job.parts.any (·.1 = pid)
      mine.forM fun (_, how) => mourn how
      match job.isDone, job.outcome?, s.pending.getLast? with
      | true, some how, _ => do
        seeJobs (·.number = number)
        return (statusOf how, true)
      | _, _, some signal => return (128 + signal, false)
      | _, _, none =>
        waitFor [.child, .signal]
        awaitJob number fuel

/-- Wait for jobs.  One that is not known is passed over. -/
def wait (args : List String) : Act Nat := do
  match ← operandsOf args with
  | [] => awaitJobs patience
  | operands =>
    let mut status := 127
    for arg in operands do
      let job? ← match arg.toList with
        | '%' :: _ => some <$> jobOf arg
        | _ => do
          let pid ← number arg
          pure ((← get).jobs.find? (·.last? = some pid))
      if let some job := job? then
        let (result, isDone) ← awaitJob job.number patience
        if !isDone then return result
        status := result
    return status

/-- Tell about jobs.  Those that are done are forgotten. -/
def jobs (args : List String) : Act Nat := do
  let (options, operands) ← optionsOf "lp" args
  let detail : Job.Detail := match options.getLast? with
    | some ('l', _) => .long
    | some _ => .leader
    | none => .plain
  let tell (job : Job) : Act Unit := do
    let all := (← get).jobs
    let _ ← write "jobs" (job.text detail (Job.mark all job))
    if detail ≠ .leader && job.isDone then
      modify fun s => { s with jobs := s.jobs.filter (·.number ≠ job.number) }
  let _ ← reap
  if operands.isEmpty then
    for job in (← get).jobs do
      tell job
  else
    for arg in operands do
      tell (← jobOf arg)
  return 0

/-- Take a job to the front, or let it go on: there is no terminal that this could be done for. -/
def resume (args : List String) : Act Nat := do
  let operands ← operandsOf args
  let (name, arg) := match operands with
    | [] => ("(null)", "%+")
    | arg :: _ => (arg, arg)
  let _ ← jobOf arg
  fail s!"job {name} not created under job control"

/-! ### Input -/

/-- Characters of a line, each with whether a backslash stood before it.  With `isRaw` a
backslash is a character like others.  Tells whether the line goes on. -/
def unslash (isRaw : Bool) : List Char → List (Char × Bool) × Bool
  | [] => ([], false)
  | '\\' :: rest =>
    if isRaw then
      let (cs, more) := unslash isRaw rest
      (('\\', false) :: cs, more)
    else
      match rest with
      | [] => ([], true)
      | c :: rest =>
        let (cs, more) := unslash isRaw rest
        ((c, true) :: cs, more)
  | c :: rest =>
    let (cs, more) := unslash isRaw rest
    ((c, false) :: cs, more)

/-- Share a line among names; the last one gets what is left. -/
def share (separators : List Char) (names : List String) (cs : List (Char × Bool)) :
    List (String × String) :=
  let separates (c : Char × Bool) : Bool := separators.contains c.1 && !c.2
  let blank (c : Char × Bool) : Bool := separates c && c.1.isWhitespace
  let cs := cs.dropWhile blank
  match names with
  | [] => []
  | [name] =>
    let kept := (cs.reverse.dropWhile blank).reverse
    -- One separator at the end of a last field does not belong to it.
    let body := kept.dropLast
    let single := kept.getLast?.any separates && !(body.any separates)
    [(name, String.ofList ((if single then body else kept).map (·.1)))]
  | name :: rest =>
    let field := cs.takeWhile (!separates ·)
    let after := (cs.drop field.length).dropWhile blank
    let after := match after with
      | c :: more => if separates c then more else after
      | [] => []
    (name, String.ofList (field.map (·.1))) :: share separators rest after

/-- Take a line of input, unless a signal comes that there is an action for.  Gives the line without
its end, and whether it has one. -/
def takeLine : (fuel : Nat) → Act (Bytes × Bool)
  | 0 => throw .unending
  | fuel + 1 => do
    let supply ← supply 0
    let flow := supply.flow.toOption.getD .empty
    let (line, rest) := flow.takeLines 1
    if line.getLast? == some Bytes.newline then
      putBack 0 rest
      return (line.dropLast, true)
    else if supply.isOver || !(← get).pending.isEmpty then
      putBack 0 rest
      return (line, false)
    else
      if let some (.pipe n _) ← channel? 0 then waitFor [.input n (line.length + 1), .signal]
      takeLine fuel

/-- Take a line of input, and those that it goes on with. -/
def takeLines (isRaw : Bool) : (fuel : Nat) → Act (List (Char × Bool) × Bool)
  | 0 => return ([], false)
  | fuel + 1 => do
    let (line, complete) ← takeLine patience
    let (cs, more) := unslash isRaw ((Bytes.toRaw line).toList.filter (· ≠ '\x00'))
    if more && complete then
      let (next, complete) ← takeLines isRaw fuel
      return (cs ++ next, complete)
    else return (cs, complete)

/-- The characters that separate fields. -/
def separators : Act (List Char) := do
  return (((← get).value? "IFS").getD " \t\n").toList

/-- Read a line into variables. -/
def read (args : List String) : Act Nat := do
  let (options, names) ← optionsOf "p:r" args
  if names.isEmpty then fail "arg count"
  let (cs, complete) ← takeLines (options.any (·.1 = 'r')) 1000
  for (name, value) in share (← separators) names cs do
    if !isName name.toList then fail s!"{name}: bad variable name"
    assign name value
  return if complete then 0 else 1

/-! ### Looking names up -/

/-- The commands that run others and are carried out where commands are. -/
def evaluating : List String := ["eval", ".", "exec", "command"]

/-- The names of the commands that a shell carries out itself. -/
def names : List String :=
  evaluating ++
  [":", "true", "false", "echo", "printf", "test", "[", "pwd", "cd", "chdir", "export", "readonly",
   "unset", "local", "set", "shift", "getopts", "alias", "unalias", "umask", "exit", "return",
   "break", "continue", "trap", "kill", "wait", "read", "type", "hash", "ulimit", "jobs", "times",
   "fg", "bg"]

/-- Whether a shell carries a command out itself. -/
def isBuiltin (name : String) : Bool := names.contains name

/-- The place of a program among those that were looked up. -/
def place (name : String) : Nat :=
  let codes := name.toList.map Char.toNat
  (16 * codes.headD 0 + codes.foldl (· + ·) 0) % 31

/-- The path of a program, as a shell looks for it. -/
def programPath? (s : Session) (name : String) : Option String :=
  if name.toList.contains '/' then
    if (s.world.files.look s.dir name).isOk then some name else none
  else ((Program.find s.world.files s.dir s.searchPath name).toOption).map (·.1)

/-- Tell what a name stands for, in full or as one would write it. -/
def describe (long : Bool) (name : String) : Act Nat := do
  let s ← get
  let tell (full short : String) : Act Nat :=
    writeLines "type" [if long then name ++ full else short]
  match s.aliases.find? (·.1 = name) with
  | some (_, value) =>
    if reservedWords.contains name then tell " is a shell keyword" name
    else tell s!" is an alias for {value}" s!"alias {name}={singleQuoted value}"
  | none =>
    if reservedWords.contains name then tell " is a shell keyword" name
    else if specialNames.contains name then tell " is a special shell builtin" name
    else if s.functions.any (·.1 = name) then tell " is a shell function" name
    else if isBuiltin name then tell " is a shell builtin" name
    else
      match programPath? s name with
      | some path =>
        let tracked := s.hashed.contains name
        tell (if tracked then s!" is a tracked alias for {path}" else s!" is {path}") path
      | none =>
        if long then
          let _ ← writeLines "type" [name ++ ": not found"]
        return 127

/-- Tell what names stand for. -/
def describeAll (long : Bool) (names : List String) : Act Nat := do
  let mut status := 0
  for name in names do
    status := max status (← describe long name)
  return status

/-- Look programs up beforehand, or tell which have been. -/
def hash (args : List String) : Act Nat := do
  let (options, names) ← optionsOf "rv" args
  if args.isEmpty then
    let s ← get
    return ← writeLines "hash" ((s.hashed.reverse.mergeSort fun a b => place a ≤ place b).filterMap
      (programPath? s))
  if !options.isEmpty then modify fun s => { s with hashed := [] }
  let mut status := 0
  for name in names do
    let s ← get
    if isBuiltin name || s.functions.any (·.1 = name) then pure ()
    else
      match programPath? s name with
      | some _ => set { s with hashed := name :: s.hashed.filter (· ≠ name) }
      | none => status ← grumble s!"{name}: not found" 1
  return status

/-- Show or change limits. -/
def ulimit (args : List String) : Act Nat := do
  let (options, operands) ← optionsOf ("HSa" ++ Limit.letters) args
  let reach : Limit.Reach := match options.reverse.find? fun (c, _) => c = 'H' || c = 'S' with
    | some ('H', _) => .hard
    | some _ => .soft
    | none => .both
  let isAll := options.any (·.1 = 'a')
  let letter := ((options.reverse.find? fun (c, _) => Limit.letters.toList.contains c).map
    (·.1)).getD 'f'
  let limits := (← get).limits
  match operands with
  | [] =>
    let isHard := reach == .hard
    writeLines "ulimit" (if isAll then Limit.lines isHard limits
      else [(Limit.find limits letter).text isHard])
  | text :: more =>
    if isAll || !more.isEmpty then fail "too many arguments"
    else
      match Limit.value? letter text with
      | none => fail "bad number"
      | some value =>
        match Limit.change limits reach letter value with
        | .error message => fail message
        | .ok limits => do
          modify fun s => { s with limits }
          return 0

/-- The commands that a shell carries out itself, by name. -/
def table : List (String × (List String → Act Nat)) :=
  [(":", fun _ => return 0), ("true", fun _ => return 0), ("false", fun _ => return 1),
   ("echo", echo), ("printf", printf), ("test", test), ("[", bracket), ("pwd", pwd), ("cd", cd),
   ("chdir", cd), ("export", mark "export" (fun v => { v with isExported := true }) (·.isExported)),
   ("readonly", mark "readonly" (fun v => { v with isReadOnly := true }) (·.isReadOnly)),
   ("unset", unset), ("local", locals), ("set", set'), ("shift", shift), ("getopts", getopts),
   ("alias", setAliases), ("unalias", dropAliases), ("umask", umask), ("exit", exit),
   ("return", ret), ("break", leave .break), ("continue", leave .continue), ("trap", trap),
   ("kill", kill), ("wait", wait), ("read", read), ("type", describeAll true), ("hash", hash),
   ("ulimit", ulimit), ("jobs", jobs),
   ("times", fun _ => writeLines "times" ["0m0.000000s 0m0.000000s", "0m0.000000s 0m0.000000s"]),
   ("fg", resume), ("bg", resume)]

/-- A command that a shell carries out itself, by its name. -/
def byName? (name : String) : Option (List String → Act Nat) :=
  (table.find? (·.1 = name)).map (·.2)

/-- Whether a fault of a command ends the shell. -/
def isSpecial (name : String) : Bool := specialNames.contains name || name = "local"

end Outflow.Shell.Builtin
