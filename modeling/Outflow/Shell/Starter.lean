import Outflow.Host.Utility
import Outflow.Shell.Opening

/-!
# Small programs that start others

Each changes something about its process, such as the environment or the time that is allowed,
and lets another program take its place or waits for one.  How a program is started is left to
a `Launcher`.
-/

namespace Outflow.Shell

/-- How a program takes the place of a process, by its name and with arguments.  An error says
why it cannot. -/
abbrev Launcher := String → List String → Act (Except IoError WaitStatus)

namespace Starter

/-- Complain. -/
def grumble (c : Program.Call) (message : String) : Act Unit := say 2 s!"{c.name}: {message}\n"

/-- End after a wrong use. -/
def misuse (c : Program.Call) (status : Nat) (message : String) : Act WaitStatus := do
  grumble c message
  say 2 s!"Try '{c.name} --help' for more information.\n"
  return .exited status

/-- The status of a starter that could not start a program. -/
def failureStatus (e : IoError) : Nat := if e = .os 2 then 127 else 126

/-- Start a program in the place of this one, or complain; `front` comes before its name. -/
def hand (run : Launcher) (c : Program.Call) (front : String) (words : List String) :
    Act WaitStatus := do
  match words with
  | [] => return .exited 0
  | name :: args =>
    match ← run name args with
    | .ok how => return how
    | .error e => do
      grumble c s!"{front}{quoted name}: {Utility.errorText e}"
      return .exited (failureStatus e)

/-- Read options that come before the program to start; a wrong use ends with a status. -/
def withFlags (c : Program.Call) (status : Nat) (letters : String) (words : List (String × Char))
    (body : Flags → Act WaitStatus) : Act WaitStatus := do
  pass Utility.startup
  match Grammar.read ⟨letters.toList, words, false⟩ c.args with
  | .ok flags => body flags
  | .error message => misuse c status message

/-- Write lines to the output. -/
def writeLines (c : Program.Call) (ls : List String) : Act WaitStatus := do
  match ← emit 1 (Bytes.ofRaw (String.join (ls.map (· ++ "\n")))) with
  | none => return .exited 0
  | some e => do
    grumble c s!"write error: {Utility.errorText e}"
    return .exited 1

/-! ### The environment -/

/-- Set the variables in front of a program. -/
def setVars : List String → Act (List String)
  | [] => return []
  | arg :: rest =>
    match Builtin.cutAssignment arg with
    | (name, some value) => do
      modify fun s => s.putVariable ⟨name, some value, true, false⟩
      setVars rest
    | (_, none) => return arg :: rest

/-- Run a program with another environment, or write the environment. -/
def env (run : Launcher) (c : Program.Call) : Act WaitStatus :=
  withFlags c 125 "iu:C:0v"
    [("ignore-environment", 'i'), ("unset", 'u'), ("chdir", 'C'), ("null", '0'), ("debug", 'v')]
    fun flags => do
      let isBare := flags.operands.head? == some "-"
      if flags.has 'i' || isBare then modify fun s => { s with vars := [] }
      match (flags.values 'u').find? fun name => name = "" || name.toList.contains '=' with
      | some name => do
        grumble c s!"cannot unset {quoted name}: Invalid argument"
        return .exited 125
      | none => do
        modify fun s => { s with
          vars := s.vars.filter fun v => !(flags.values 'u').contains v.name }
        let words ← setVars (if isBare then flags.operands.drop 1 else flags.operands)
        match words, flags.value? 'C' with
        | [], some _ => misuse c 125 "must specify command with --chdir (-C)"
        | [], none => do
          let pairs := (← get).environment.map fun (k, v) => s!"{k}={v}"
          if flags.has '0' then
            let text := String.join (pairs.map (· ++ "\x00"))
            let _ ← emit 1 (Bytes.ofRaw text)
            return .exited 0
          else writeLines c pairs
        | words, none => hand run c "" words
        | words, some path => do
          let s ← get
          let found : Except IoError (List String) := do
            let dir ← s.world.files.resolve s.dir path
            if s.world.files.isDirectory dir then pure dir else throw (.os 20)
          match found with
          | .ok dir => do
            set { s with dir }
            hand run c "" words
          | .error e => do
            grumble c s!"cannot change directory to {quoted path}: {Utility.errorText e}"
            return .exited 125

/-! ### Time -/

/-- How long a program may run. -/
structure Allowance where
  /-- The microseconds that it may take; zero for as many as it likes. -/
  micros : Nat
  signal : Signal
  /-- How long after the first signal it is ended by force. -/
  force : Option Nat
  /-- Whether its own status is kept. -/
  keepsStatus : Bool
  /-- Whether the signals are for it alone. -/
  isAlone : Bool
  /-- The program, if it is to be told that it is sent a signal. -/
  told : Option String

/-- What is still to come for a program that runs for a limited time. -/
structure Watch where
  child : Nat
  signal : Signal
  /-- When it will be sent the signal. -/
  deadline : Option Nat
  /-- How long after the first signal it is ended by force, if that is still to be arranged. -/
  force : Option Nat
  isLate : Bool

/-- Send a signal to a program that is watched, and unless it is alone to the processes around it
as well, which includes the one that watches. -/
def passOn (a : Allowance) (w : Watch) (signal : Signal) : Act Watch := do
  let now := (← get).world.clock
  let w := match w.force with
    | some more => { w with signal := Signal.kill, deadline := some (now + more), force := none }
    | none => w
  if let some name := a.told then
    say 2 s!"timeout: sending signal {Signal.name signal} to command {quoted name}\n"
  send [w.child] signal
  if !a.isAlone then
    modify (Builtin.arrange signal (some ""))
    let s ← get
    send (s.world.members s.group) signal
    if signal ≠ Signal.kill && signal ≠ Signal.cont then
      send [w.child] Signal.cont
      modify (Builtin.arrange Signal.cont (some ""))
      send (s.world.members s.group) Signal.cont
  return w

/-- Watch a program until it ends. -/
def watch (a : Allowance) (w : Watch) : (fuel : Nat) → Act (Watch × WaitStatus)
  | 0 => throw .unending
  | fuel + 1 => do
    match (← reap).find? (·.1 = w.child) with
    | some (_, how) => return (w, how)
    | none => do
      let s ← get
      match s.pending with
      | signal :: rest => do
        set { s with pending := rest }
        watch a (← passOn a w signal) fuel
      | [] =>
        if w.deadline.any (· ≤ s.world.clock) then
          let late := { w with deadline := none, isLate := true }
          watch a (← passOn a late w.signal) fuel
        else
          waitFor ([.child, .signal] ++ (w.deadline.map Awaited.moment).toList)
          watch a w fuel

/-- The signals that are passed on to a program that runs for a limited time. -/
def passedOn : List Signal := [1, 2, 3, Signal.term]

/-- Run a body for a limited time. -/
def limited (a : Allowance) (body : Act WaitStatus) : Act WaitStatus := do
  if !a.isAlone then modify fun s => { s with group := s.pid }
  for signal in a.signal :: passedOn do
    modify (Builtin.arrange signal (some "pass on"))
  let child ← spawn birthTime id body
  let now := (← get).world.clock
  let deadline := if a.micros = 0 then none else some (now + a.micros)
  let (w, how) ← watch a ⟨child, a.signal, deadline, a.force, false⟩ Builtin.patience
  match how with
  | .signalled signal =>
    if !w.isLate then return .signalled signal
    else if a.keepsStatus || signal = Signal.kill then return .exited (statusOf how)
    else return .exited 124
  | how => if w.isLate && !a.keepsStatus then return .exited 124 else return how

/-- Run a program for a limited time. -/
def timeout (run : Launcher) (c : Program.Call) : Act WaitStatus :=
  withFlags c 125 "k:s:vFP"
    [("kill-after", 'k'), ("signal", 's'), ("verbose", 'v'), ("foreground", 'F'),
      ("preserve-status", 'P')]
    fun flags => do
      let span (text : String) : Except String Nat :=
        match Utility.readSpan text with
        | some n => .ok n
        | none => .error s!"invalid time interval {quoted text}"
      let limit : Except String (Allowance × List String) := do
        let force ← (flags.value? 'k').mapM span
        let signal ← match flags.value? 's' with
          | none => pure Signal.term
          | some name =>
            match Signal.ofName? name with
            | some signal => pure signal
            | none => throw s!"{quoted name}: invalid signal"
        match flags.operands with
        | [] => throw ""
        | [_] => throw ""
        | text :: words =>
          let told := if flags.has 'v' then words.head? else none
          return (⟨← span text, signal, force.filter (0 < ·), flags.has 'P', flags.has 'F', told⟩,
            words)
      match limit with
      | .error "" => do
        say 2 s!"Try '{c.name} --help' for more information.\n"
        return .exited 125
      | .error message => misuse c 125 message
      | .ok (limit, words) => limited limit (hand run c "failed to run command " words)

/-! ### Other arrangements -/

/-- Run a program that makes way for others. -/
def nice (run : Launcher) (c : Program.Call) : Act WaitStatus :=
  withFlags c 125 "n:" [("adjustment", 'n')] fun flags => do
    let isNumber (text : String) : Bool :=
      let cs := text.toList
      let digits := if cs.head?.any fun c => c = '-' || c = '+' then cs.drop 1 else cs
      !digits.isEmpty && digits.all Char.isDigit
    match (flags.values 'n').find? (!isNumber ·), flags.operands with
    | some text, _ => do
      grumble c s!"invalid adjustment {quoted text}"
      return .exited 125
    | none, [] =>
      if flags.has 'n' then misuse c 125 "a command must be given with an adjustment"
      else writeLines c ["0"]
    | none, words => hand run c "" words

/-- Run a program that does not mind that nobody is there any more. -/
def nohup (run : Launcher) (c : Program.Call) : Act WaitStatus :=
  withFlags c 125 "" [] fun flags => do
    if flags.operands.isEmpty then misuse c 125 "missing operand"
    else
      modify fun s => { s with traps := (1, "") :: s.traps.filter (·.1 ≠ 1) }
      hand run c "failed to run command " flags.operands

/-- Run a program apart from the processes around it. -/
def setsid (run : Launcher) (c : Program.Call) : Act WaitStatus :=
  withFlags c 1 "cfw" [("ctty", 'c'), ("fork", 'f'), ("wait", 'w')] fun flags => do
    match flags.operands with
    | [] => misuse c 1 "no command specified"
    | name :: args =>
      let body : Act WaitStatus := do
        match ← run name args with
        | .ok how => return how
        | .error e => do
          grumble c s!"failed to execute {name}: {Utility.errorText e}"
          return .exited (failureStatus e)
      let alone (s : Session) : Session := { s with group := s.pid }
      if flags.has 'f' then
        let child ← spawn birthTime alone body
        if flags.has 'w' then
          return endOf (← awaitAll (fun _ => pure ()) [child] [] Builtin.patience) child
        else return .exited 0
      else
        modify alone
        body

/-- Run a program with other buffers, which makes no difference to what it writes. -/
def stdbuf (run : Launcher) (c : Program.Call) : Act WaitStatus :=
  withFlags c 125 "i:o:e:" [("input", 'i'), ("output", 'o'), ("error", 'e')] fun flags => do
    if flags.operands.isEmpty then misuse c 125 "missing operand"
    else if flags.options.isEmpty then misuse c 125 "you must specify a buffering mode option"
    else hand run c "failed to run command " flags.operands

/-! ### Arguments from the input -/

/-- How arguments are taken from the input. -/
structure Taking where
  /-- What ends an argument; white space, unless quoted, if nothing is said. -/
  delimiter : Option Char
  /-- The text that each argument takes the place of. -/
  replaced : Option String
  /-- The number of lines, or of arguments, that go together. -/
  lines : Option Nat
  most : Option Nat
  /-- The text that ends the input. -/
  last : Option String

/-- Arguments that are being read from a text in which quotes and backslashes have a meaning. -/
structure Items where
  /-- The quote that is open. -/
  quote : Option Char
  /-- A backslash stands before the next character. -/
  isEscaped : Bool
  /-- The characters of the argument that has begun, in reverse. -/
  current : Option (List Char)
  /-- The arguments of the line, in reverse. -/
  line : List String
  /-- The lines before it, in reverse. -/
  lines : List (List String)
  /-- The line ended with a blank, so that the next one belongs to it. -/
  goesOn : Bool

namespace Items

/-- Add a character to the argument. -/
def add (s : Items) (c : Char) : Items :=
  { s with current := some (c :: s.current.getD []), isEscaped := false, goesOn := false }

/-- End the argument. -/
def endItem (s : Items) : Items :=
  match s.current with
  | some cs => { s with current := none, line := String.ofList cs.reverse :: s.line }
  | none => s

/-- End the line, unless it has nothing in it. -/
def endLine (s : Items) : Items :=
  let s := s.endItem
  if s.line.isEmpty then s else { s with line := [], lines := s.line.reverse :: s.lines }

/-- One more character.  With `whole` a line, without the blanks in front of it, is one
argument. -/
def step (whole : Bool) (s : Items) (c : Char) : Items :=
  match s.isEscaped, s.quote with
  | true, _ => s.add c
  | false, some q =>
    if c = q then { s with quote := none, current := some (s.current.getD []) } else s.add c
  | false, none =>
    if c = '\\' then { s with isEscaped := true }
    else if c = '\'' || c = '"' then { s with quote := some c, goesOn := false }
    else if c = '\n' then if s.goesOn && !whole then s.endItem else s.endLine
    else if c.isWhitespace && (!whole || s.current.isNone) then { s.endItem with goesOn := true }
    else s.add c

/-- The lines of arguments in a text. -/
def read (whole : Bool) (cs : List Char) : Except String (List (List String)) :=
  let go (s : Items) (c : Char) : Except String Items :=
    if c = '\n' && s.quote.isSome then .error (unmatched s.quote) else .ok (s.step whole c)
  match cs.foldlM go ⟨none, false, none, [], [], false⟩ with
  | .error e => .error e
  | .ok s => if s.quote.isSome then .error (unmatched s.quote) else .ok s.endLine.lines.reverse
where
  /-- The complaint about a quote that is not closed. -/
  unmatched (quote : Option Char) : String :=
    (if quote = some '"' then "unmatched double quote; " else "unmatched single quote; ") ++
      "by default quotes are special to xargs unless you use the -0 option"

end Items

/-- The arguments of a text, line by line. -/
def Taking.read (t : Taking) (cs : List Char) : Except String (List (List String)) := do
  let lines ← match t.delimiter with
    | some d =>
      let parts := (cs.splitOn d).map String.ofList
      pure ((if parts.getLast? = some "" then parts.dropLast else parts).map ([·]))
    | none => Items.read t.replaced.isSome cs
  match t.last with
  | none => return lines
  | some last =>
    let before := lines.takeWhile (!·.contains last)
    let there := ((lines.drop before.length).headD []).takeWhile (· ≠ last)
    return before ++ if there.isEmpty then [] else [there]

/-- Cut a list into parts of some length, of which the last may be shorter.  Fuel is the length
of the list. -/
def parts {α : Type} (size : Nat) (fuel : Nat) (xs : List α) : List (List α) :=
  match fuel, xs with
  | _, [] => []
  | 0, xs => [xs]
  | fuel + 1, xs => xs.take size :: parts size fuel (xs.drop size)

/-- Arguments that have room together. -/
def packed (room : Nat) (items : List String) : List (List String) :=
  let step (acc : List (List String) × Nat) (item : String) : List (List String) × Nat :=
    let size := item.length + 1
    match acc with
    | (current :: done, used) =>
      if room < used + size && !current.isEmpty then ([item] :: current :: done, size)
      else ((item :: current) :: done, used + size)
    | ([], _) => ([[item]], size)
  ((items.foldl step ([], 0)).1.map List.reverse).reverse

/-- A text with all places of another one filled. -/
def fill (mark value : List Char) (fuel : Nat) (cs : List Char) : List Char :=
  match fuel, cs with
  | 0, cs => cs
  | _, [] => []
  | fuel + 1, c :: rest =>
    if !mark.isEmpty && mark.isPrefixOf cs then value ++ fill mark value fuel (cs.drop mark.length)
    else c :: fill mark value fuel rest

/-- The commands that arguments are made into. -/
def Taking.commands (t : Taking) (words : List String) (lines : List (List String)) :
    List (List String) :=
  match t.replaced with
  | some mark =>
    lines.flatten.map fun item => words.map fun word =>
      String.ofList (fill mark.toList item.toList (word.length + 1) word.toList)
  | none =>
    let items := lines.flatten
    let groups := match t.lines, t.most with
      | _, some n => parts n items.length items
      | some n, none => (parts n lines.length lines).map List.flatten
      | none, none => packed 127000 items
    groups.map (words ++ ·)

/-- How an argument is shown. -/
def shown (words : List String) : String := Utility.joined (words.map shellWord)

/-- Run commands one after the other.  Each is a child without input. -/
def runEach (run : Launcher) (c : Program.Call) (tells : Bool) (status : Nat) :
    List (List String) → Act WaitStatus
  | [] => return .exited status
  | words :: rest => do
    if tells then say 2 (shown words ++ "\n")
    let name := words.headD ""
    let silent (s : Session) : Session :=
      { s with channels := Channels.replace s.channels 0 (some .null) }
    let child ← spawn birthTime silent do
      match ← run name (words.drop 1) with
      | .ok how => return how
      | .error e => do
        grumble c s!"{shellWord name}: {Utility.errorText e}"
        -- No status of a program is as large as this.
        return .exited (256 + failureStatus e)
    match endOf (← awaitAll (fun _ => pure ()) [child] [] Builtin.patience) child with
    | .exited 0 => runEach run c tells status rest
    | .exited 255 => do
      grumble c s!"{name}: exited with status 255; aborting"
      return .exited 124
    | .exited n =>
      if 256 ≤ n then return .exited (n - 256) else runEach run c tells 123 rest
    | .signalled signal => do
      grumble c s!"{name}: terminated by signal {signal}"
      return .exited 125
    | .stopped => return .exited 125

/-- The character that an argument stands for. -/
def delimiter (text : String) : Char :=
  match text.toList with
  | ['\\', 'n'] => '\n'
  | ['\\', 't'] => '\t'
  | ['\\', '0'] => '\x00'
  | c :: _ => c
  | [] => '\x00'

/-- Run a program with arguments from the input. -/
def xargs (run : Launcher) (c : Program.Call) : Act WaitStatus :=
  withFlags c 1 "0prtxa:d:E:e::i::I:l::L:n:P:s:"
    [("null", '0'), ("no-run-if-empty", 'r'), ("verbose", 't'), ("exit", 'x'), ("arg-file", 'a'),
      ("delimiter", 'd'), ("eof", 'e'), ("replace", 'i'), ("max-lines", 'l'), ("max-args", 'n'),
      ("max-procs", 'P'), ("max-chars", 's')]
    fun flags => do
      let number (option : Char) : Option Nat := (flags.value? option).bind Utility.readNat
      let bad := ['n', 'L'].find? fun option =>
        (flags.value? option).isSome && !(number option).any (0 < ·)
      match bad with
      | some option =>
        let text := (flags.value? option).getD ""
        match Utility.readNat text with
        | none => misuse c 1 s!"invalid number {quoted text} for -{String.singleton option} option"
        | some _ =>
          misuse c 1 s!"value {text} for -{String.singleton option} option should be >= 1"
      | none => do
        let replaced := match flags.last? ['I', 'i'] with
          | some 'I' => flags.value? 'I'
          | some _ => (flags.value? 'i').map fun mark => if mark = "" then "\x7b\x7d" else mark
          | none => none
        let lines := match flags.last? ['L', 'l'] with
          | some 'L' => number 'L'
          | some _ => some (((flags.value? 'l').bind Utility.readNat).getD 1)
          | none => none
        let t : Taking :=
          { delimiter := match flags.last? ['0', 'd'] with
              | some 'd' => (flags.value? 'd').map delimiter
              | some _ => some '\x00'
              | none => none
            replaced, lines
            most := number 'n'
            last := ((flags.value? 'E').orElse fun () => flags.value? 'e').filter (· ≠ "") }
        let s ← get
        let input : Except IoError Flow ← match flags.value? 'a' with
          | some path => pure ((s.world.files.read s.dir path).map Flow.ofBytes)
          | none => drain 0 .empty Builtin.patience
        match input with
        | .error e => do
          match flags.value? 'a' with
          | some path =>
            grumble c s!"Cannot open input file {quoted path}: {Utility.errorText e}"
          | none => pure ()
          return .exited 1
        | .ok flow =>
          match t.read (Bytes.toRaw flow.toBytes).toList with
          | .error message => do
            grumble c message
            return .exited 1
          | .ok found =>
            let words := if flags.operands.isEmpty then ["echo"] else flags.operands
            let runsEmpty := found.isEmpty && !flags.has 'r' && replaced.isNone
            runEach run c (flags.has 't') 0 (if runsEmpty then [words] else t.commands words found)

/-- The small programs that start others, by name, apart from the shells. -/
def table : List (String × (Launcher → Program.Call → Act WaitStatus)) :=
  [("env", env), ("timeout", timeout), ("nice", nice), ("nohup", nohup), ("setsid", setsid),
   ("stdbuf", stdbuf), ("xargs", xargs)]

/-- A small program that starts others, by its name. -/
def byName? (name : String) : Option (Launcher → Program.Call → Act WaitStatus) :=
  (table.find? (·.1 = name)).map (·.2)

end Starter

end Outflow.Shell
