import Outflow.Shell.Arithmetic
import Outflow.Shell.Invocation
import Outflow.Shell.Parameter
import Outflow.Shell.Starter

/-!
# Running shell programs

The evaluation of commands, words and programs.  All functions take fuel, which bounds how deep
commands are nested and how often a loop turns; a process that uses it up is taken for one that
never ends.

A command in `tail` position is the last thing that its shell does.  A program started there
takes the place of the shell instead of becoming its child.
-/

namespace Outflow.Shell

/-! ### Surroundings of a command -/

/-- Run as a part of a command inside the shell, which complaints name. -/
def withCommand {α : Type} (command : Option String) (body : Act α) : Act α := fun s =>
  body.within (fun s => { s with command }) (fun t => { t with command := s.command }) s

/-- Run where the status is only asked for, so that a failure does not end the shell. -/
def guarded {α : Type} (body : Act α) : Act α := fun s =>
  body.within (fun s => { s with isGuarded := true })
    (fun t => { t with isGuarded := s.isGuarded }) s

/-- Run as if nobody asked for the status. -/
def unguarded {α : Type} (body : Act α) : Act α := fun s =>
  body.within (fun s => { s with isGuarded := false })
    (fun t => { t with isGuarded := s.isGuarded }) s

/-- End the shell after a failure, if it has been told to. -/
def check : Act Unit := do
  let s ← get
  if s.has 'e' && !s.isGuarded && s.status ≠ 0 then throw (.exit s.status)

/-- Put variables back to what they are now when a body is done. -/
def restoring {α : Type} (names : List String) (body : Act α) : Act α := fun s =>
  let old := names.map fun name => (name, s.binding? name)
  let restore (t : Session) : Session :=
    old.foldl
      (fun t (name, v) =>
        match v with
        | some v => t.putVariable v
        | none => { t.noticeChange name none with vars := t.vars.filter (·.name ≠ name) })
      t
  body.within id restore s

/-- Run the body of a function. -/
def called (args : List String) (body : Act Unit) : Act Unit := fun s =>
  let leave (t : Session) : Session :=
    let t := (t.frames.headD []).foldl Session.putVariable t
    { t with
      arguments := s.arguments, frames := s.frames, loops := s.loops
      optionIndex := s.optionIndex, optionOffset := s.optionOffset }
  let start := { s with
    arguments := args, frames := [] :: s.frames, loops := 0, optionIndex := 1
    optionOffset := none }
  (body start).andThen (fun () t => .done () (leave t)) fun j t =>
    match j with
    | .return n => .done () { leave t with status := n }
    | j => .jumps j (leave t)

/-- Run a body that may return before its end. -/
def returning (body : Act Unit) : Act Unit := fun s =>
  (body s).andThen .done fun j t =>
    match j with
    | .return n => .done () { t with status := n }
    | j => .jumps j t

/-- How a loop goes on after a part of it. -/
inductive Turn where
  | next
  /-- The rest of this turn is left out. -/
  | again
  | stop

/-- Run a part of a loop. -/
def turn (body : Act Unit) : Act Turn := fun s =>
  let leave (t : Session) : Session := { t with loops := s.loops }
  (body { s with loops := s.loops + 1 }).andThen (fun () t => .done .next (leave t)) fun j t =>
    match j with
    | .break n => if n ≤ 1 then .done .stop (leave t) else .jumps (.break (n - 1)) (leave t)
    | .continue n => if n ≤ 1 then .done .again (leave t) else .jumps (.continue (n - 1)) (leave t)
    | j => .jumps j (leave t)

/-- Run a body that may end its shell, and tell the status with which it does. -/
def statusAtEnd (body : Act Unit) : Act Nat := fun s =>
  (body s).andThen (fun () t => .done t.status t) fun j t =>
    match j with
    | .exit status => .done status t
    | .return status => .done status t
    | .ended how => .jumps (.ended how) t
    | .unending => .jumps .unending t
    | _ => .done t.status t

/-- A text that must be readable, or the shell stops.  `lastLine` is the number of its last
line. -/
def readable {α : Type} (lastLine : Nat) (r : Reads α) : Act α :=
  match r with
  | .ok a => return a
  | .error e => do
    modify fun s => { s with line := lastLine - e.linesLeft }
    fail e.fault.message

/-- What a substituted text looks like without zero octets and line ends at its end. -/
def trimOutput (bytes : Bytes) : List Char :=
  let cs := (Bytes.toRaw (bytes.filter (· ≠ 0))).toList
  (cs.reverse.dropWhile (· = '\n')).reverse

/-! ### Finding programs -/

/-- Find the program that a name stands for. -/
def Session.find (s : Session) (name : String) : Except IoError (String × Program) :=
  if Files.maxName < name.length && !name.toList.contains '/' then .error (.os 36)
  else Program.find s.world.files s.dir s.searchPath name

/-- How a program is started by its name.  A file without a program to read it is read by a
shell. -/
def Session.call (s : Session) (name : String) (args : List String) :
    Except IoError Program.Call := do
  let (path, program) ← s.find name
  if Program.isTooMuch (name :: args) s.environment then throw (.os 7)
  match Program.call s.world.files s.dir path name args Program.maxReaders program with
  | .error (.os 8) => return ⟨"sh", "/bin/sh", path :: args⟩
  | result => result

/-- What is said about a program that cannot be run. -/
def programFault (name : String) (e : IoError) : String :=
  if e = .os 2 || e = .os 20 then s!"{name}: not found" else s!"{name}: {Utility.errorText e}"

/-- The status after a program could not be run. -/
def programStatus (e : IoError) : Nat :=
  if e = .os 2 || e = .os 20 || e = .os 36 || e = .os 40 then 127 else 126

/-- Write what a small program writes, and tell its status. -/
def writeAll (c : Program.Call) (status : Nat) : List Outflow.Piece → Act WaitStatus
  | [] => return .exited status
  | .err bytes :: rest => do
    let _ ← emit 2 bytes
    writeAll c status rest
  | .out flow :: rest => do
    match ← emitFlow 1 flow with
    | none => writeAll c status rest
    | some e => do
      -- Nothing more can be written.
      let (notes, worst) := Utility.writeFault c.utility e
      say 2 (String.join (notes.map fun note => s!"{c.name}: {note}\n"))
      return .exited (max worst status)

/-- How many more octets of input a small program waits for that has so many. -/
def nextSize (utility : String) (size : Nat) : Nat :=
  if !Utility.streams.contains utility then Pipe.capacity
  else if size < 4096 then 1
  else min size Pipe.capacity

/-- Run a small program in place of this process, from where it has taken some input and written
the first octets of its output. -/
def work (c : Program.Call) (f : Occasion → Effect) (taken : Flow) (written : Nat) :
    (fuel : Nat) → Act WaitStatus
  | 0 => throw .unending
  | fuel + 1 => do
    let supply ← supply 0
    let input := supply.flow.map taken.append
    let flow := input.toOption.getD .empty
    let s ← get
    let effect := f
      ⟨c.name, c.args, input, supply.isSeekable, s.world.files, s.dir, s.environment, s.umask,
        Builtin.epoch + s.world.clock, ← placeOf 0, ← placeOf 1⟩
    let isReady := supply.isOver || effect.rest.needed.any (· ≤ extent flow)
    let pieces := Outflow.Piece.dropAll written effect.pieces
    if isReady && (flow.ends || effect.rest.needed.isSome) then
      if effect.rest.flow ≠ flow || taken ≠ .empty then putBack 0 effect.rest.flow
      modifyWorld fun w => { w with files := effect.files }
      match ← writeAll c effect.status pieces with
      | .exited status => do
        pass (effect.micros - Utility.startup)
        return .exited status
      | how => return how
    else
      putBack 0 .empty
      if !flow.ends then
        -- Input without end leads to output without end, or to none.
        if Utility.streams.contains c.utility then
          let _ ← writeAll c effect.status (Outflow.Piece.repeated pieces)
        waitFor []
        return .exited effect.status
      else if Utility.prompt.contains c.utility then
        match ← writeAll c 0 pieces with
        | .exited 0 => do
          awaitInput 0 1
          work c f flow (written + (pieces.map Outflow.Piece.size).sum) fuel
        | how => return how
      else
        awaitInput 0 (nextSize c.utility (extent flow))
        work c f flow written fuel

/-- Take what comes through the pipes with names among some files.  Gives their places, and what
came out of each. -/
def takeNamed : List (List String) → Act (List (List String × Bytes))
  | [] => return []
  | place :: rest => do
    let channel ← openNamed place .reads
    let channels := (← get).channels
    let taken ← withChannels (channels.replace 0 (some channel))
      (drain 0 .empty Builtin.patience)
    return (place, (taken.toOption.getD .empty).toBytes) :: (← takeNamed rest)

/-- Run a small program in place of this process.  To a program that reads files, a pipe with a
name is one that holds what comes through it. -/
def runUtility (c : Program.Call) (f : Occasion → Effect) : Act WaitStatus := do
  pass Utility.startup
  let s ← get
  let places := c.args.filterMap fun arg => (s.world.files.resolve s.dir arg).toOption
  let isNamed (place : List String) : Bool := (s.world.files.node? place).any FileNode.isFifo
  match (places.filter isNamed).eraseDups, Utility.openers.contains c.utility with
  | place :: more, true => do
    let taken ← takeNamed (place :: more)
    let seen (files : Files) : Files := taken.foldl
      (fun fs (place, bytes) => fs.put place (.file bytes Files.plainMode)) files
    let unseen (files : Files) : Files := taken.foldl
      (fun fs (place, _) => match s.world.files.node? place with
        | some node => fs.put place node
        | none => fs) files
    work c (fun o => let e := f { o with files := seen o.files }
      { e with files := unseen e.files }) .empty 0 Builtin.patience
  | _, _ => work c f .empty 0 Builtin.patience

/-! ### Commands -/

/-- What a command runs after words in front of it that only say how. -/
structure Target where
  words : List String
  /-- Functions are passed over, and nothing ends the shell. -/
  isPlain : Bool
  /-- Programs are looked for where all machines have them. -/
  isCommon : Bool

/-- The words after `command` and its options; nothing if they do not name what to run. -/
def behindCommand (isCommon : Bool) : List String → Option (List String × Bool)
  | [] => none
  | word :: rest =>
    match word.toList with
    | ['-', '-'] => if rest.isEmpty then none else some (rest, isCommon)
    | '-' :: c :: cs => if (c :: cs).all (· = 'p') then behindCommand true rest else none
    | _ => some (word :: rest, isCommon)

/-- What the words of a command run.  Fuel is their number. -/
def Target.ofWords (s : Session) (fuel : Nat) (isPlain isCommon : Bool) (words : List String) :
    Target :=
  match fuel, words with
  | fuel + 1, "command" :: rest =>
    if !isPlain && s.functions.any (·.1 = "command") then ⟨words, isPlain, isCommon⟩
    else
      match behindCommand isCommon rest with
      | some (words, isCommon) => ofWords s fuel true isCommon words
      | none => ⟨words, true, isCommon⟩
  | _, words => ⟨words, isPlain, isCommon⟩

/-- Whether the arguments of a command that look like assignments are taken for some. -/
def Target.assigns (t : Target) : Bool :=
  match t.words with
  | name :: _ => ["export", "readonly", "local", "alias"].contains name
  | [] => false

/-- The commands of a pipeline. -/
def Tree.pipeline? : Tree → Option (List Tree)
  | .located _ (.pipeline parts) => some parts
  | .pipeline parts => some parts
  | _ => none

/-- A command in the background apart from its redirections, whose words are expanded before it
goes there.  Those of a simple command and of a subshell are expanded by the command itself. -/
def Tree.bare : Tree → Tree × List Redirection
  | .located line body => let (body, rs) := body.bare; (.located line body, rs)
  | .group body rs => (.group body [], rs)
  | .conditional condition yes no rs => (.conditional condition yes no [], rs)
  | .loop negated condition body rs => (.loop negated condition body [], rs)
  | .each name words body rs => (.each name words body [], rs)
  | .choice word arms rs => (.choice word arms [], rs)
  | t => (t, [])

/-- The signals that a command in the background ignores from the beginning. -/
def Session.deafAside : List Signal := [2, 3]

/-- How many functions may have called each other. -/
def maxCalls : Nat := 1000

/-- How many actions for signals may interrupt each other before a shell has no room for more. -/
def maxActions : Nat := 1000

mutual

/-- Expand a piece of a word. -/
def expandPiece (fuel : Nat) (p : Piece) : Act (List Mark) :=
  match fuel with
  | 0 => throw .unending
  | fuel + 1 =>
    match p with
    | .text [] _ => return [.quotes]
    | .text cs isQuoted => return Mark.ofText cs isQuoted false
    | .output body isQuoted => do
      return Mark.ofText (← substitute fuel body) isQuoted (!isQuoted)
    | .arithmetic word isQuoted => do
      let text := (← expandText fuel word).toList
      let s ← get
      match Arithmetic.value s.value? text with
      | .error .overflow => throw (.ended (.signalled 8))
      | .error e => fail (e.message (String.ofList text))
      | .ok (n, settings) =>
        settings.reverse.forM fun (name, value) => Builtin.assign name value
        return Mark.ofText (toString n).toList isQuoted (!isQuoted)
    | .parameter name form isQuoted => expandParameter fuel (String.ofList name) form isQuoted

/-- Expand a parameter. -/
def expandParameter (fuel : Nat) (name : String) (form : ParameterForm) (isQuoted : Bool) :
    Act (List Mark) :=
  match fuel with
  | 0 => throw .unending
  | fuel + 1 => do
    let s ← get
    let value := s.parameter? name
    let missing (orEmpty : Bool) : Bool := value.isNone || (orEmpty && value == some "")
    let text := s.parameterText name (value.getD "") isQuoted
    let present := Session.textMarks isQuoted text
    let other (word : Word) : Act (List Mark) := do
      let word := if isQuoted then word else s.openTilde (· = '/') word
      let marks ← expandPieces fuel word
      return if isQuoted then marks else marks.map fun
        | .char c false _ => .char c false true
        | m => m
    let demand : Act Unit := do
      if s.has 'u' && value.isNone then fail s!"{name}: parameter not set"
    match form with
    | .value => do
      demand
      return present
    | .length => do
      demand
      return Mark.ofText (toString text.length).toList isQuoted (!isQuoted)
    | .default orEmpty word => if missing orEmpty then other word else return present
    | .alternative orEmpty word => if missing orEmpty then return [] else other word
    | .assign orEmpty word =>
      if missing orEmpty then do
        let marks ← other word
        if !isName name.toList then fail s!"{name}: bad variable name"
        Builtin.assign name (String.ofList (Mark.text (s.withoutGaps marks)))
        let s ← get
        return Session.textMarks isQuoted
          (s.parameterText name ((s.parameter? name).getD "") isQuoted)
      else return present
    | .require orEmpty word =>
      if missing orEmpty then do
        let text := String.ofList (Mark.text (s.withoutGaps (← other word)))
        let note := if orEmpty then "parameter not set or null" else "parameter not set"
        let message := if word.isEmpty then note else text
        fail s!"{name}: {message}"
      else return present
    | .strip front longest pattern => do
      demand
      if value.isNone then return []
      let marks ← expandPieces fuel (s.openTilde (· = '/') pattern)
      let glyphs := Mark.glyphs (s.withoutGaps marks)
      let cs := Pattern.strip Session.boundary front longest glyphs text
      return Session.textMarks isQuoted cs
    | .unknown => fail "Bad substitution"

/-- Expand pieces one after the other. -/
def expandPieces (fuel : Nat) (w : Word) : Act (List Mark) :=
  match fuel with
  | 0 => throw .unending
  | fuel + 1 =>
    match w with
    | [] => return []
    | p :: rest => do
      let first ← expandPiece fuel p
      let others ← expandPieces fuel rest
      return first ++ others

/-- Expand a word without cutting it into fields. -/
def expandWord (fuel : Nat) (w : Word) : Act (List Mark) :=
  match fuel with
  | 0 => throw .unending
  | fuel + 1 => do
    let s ← get
    match s.openTilde (· = '/') w with
    | [.text [] true, .parameter ['@'] .value true] =>
      if s.arguments.isEmpty then return []
      else expandPieces fuel w
    | w => expandPieces fuel w

/-- Expand a word into one text. -/
def expandText (fuel : Nat) (w : Word) : Act String :=
  match fuel with
  | 0 => throw .unending
  | fuel + 1 => do
    let marks ← expandWord fuel w
    return String.ofList (Mark.text ((← get).withoutGaps marks))

/-- Expand the value of an assignment. -/
def expandValue (fuel : Nat) (w : Word) : Act String :=
  match fuel with
  | 0 => throw .unending
  | fuel + 1 => do
    let marks ← expandPieces fuel ((← get).openTildes w.length true w)
    return String.ofList (Mark.text ((← get).withoutGaps marks))

/-- Expand a word into fields. -/
def expandFields (fuel : Nat) (w : Word) : Act (List String) :=
  match fuel with
  | 0 => throw .unending
  | fuel + 1 => do
    let marks ← expandWord fuel w
    let fields := Mark.fields (← Builtin.separators) marks
    let s ← get
    return fields.flatMap fun field =>
      if s.has 'f' then [String.ofList (field.map (·.char))]
      else expandPaths s.world.files s.dir field

/-- Expand words into fields. -/
def expandWords (fuel : Nat) (ws : List Word) : Act (List String) :=
  match fuel with
  | 0 => throw .unending
  | fuel + 1 =>
    match ws with
    | [] => return []
    | w :: rest => do
      let fields ← expandFields fuel w
      return fields ++ (← expandWords fuel rest)

/-- Expand the words of a command, of which some are there already. -/
def expandCommand (fuel : Nat) (before : List String) (ws : List Word) : Act (List String) :=
  match fuel with
  | 0 => throw .unending
  | fuel + 1 =>
    match ws with
    | [] => return before
    | w :: rest => do
      let target := Target.ofWords (← get) before.length false false before
      let fields ← match (if target.assigns then assignment? w else none) with
        | some (name, value) => do
          pure [String.ofList name ++ "=" ++ (← expandValue fuel value)]
        | none => expandFields fuel w
      expandCommand fuel (before ++ fields) rest

/-- The output of a program that stands in a word. -/
def substitute (fuel : Nat) (body : Tree) : Act (List Char) :=
  match fuel with
  | 0 => throw .unending
  | fuel + 1 => do
    let n ← newPipe .empty false
    let end' := Channel.pipe n .reads
    let before := (← get).kept
    let child ← keeping [end'] (spawn birthTime
      (fun s => { s with
        channels := s.channels.replace 1 (some (.pipe n .writes)), kept := before
        isGuarded := false })
      (toEnd fuel (eval fuel true body)))
    let bytes ← keeping [end'] (collect fuel n .empty)
    let known ← awaitAll mourn [child] [] fuel
    modify fun s => { s with substituted := some (statusOf (endOf known child)) }
    return trimOutput bytes

/-- All that comes out of a pipe until nobody can write into it any more. -/
def collect (fuel : Nat) (n : Nat) (before : Flow) : Act Bytes :=
  match fuel with
  | 0 => throw .unending
  | fuel + 1 => do
    let s ← get
    let all := before.append (s.world.pipe n).content
    modifyWorld fun w => w.setPipe n ((w.pipe n).replace .empty)
    if !s.hasWriter n then return all.toBytes
    else
      waitFor [.input n 1]
      collect fuel n all

/-- Expand the words of redirections. -/
def expandRedirections (fuel : Nat) (rs : List Redirection) : Act (List Opening) :=
  match fuel with
  | 0 => throw .unending
  | fuel + 1 =>
    match rs with
    | [] => return []
    | r :: rest => do
      let opening ← match r with
        | .input fd w both => pure (Opening.input fd (← expandText fuel w) both)
        | .output fd w append clobber =>
          pure (Opening.output fd (← expandText fuel w) append clobber)
        | .duplicate fd w =>
          match (← expandText fuel w).toList with
          | ['-'] => pure (Opening.duplicate fd none)
          | [c] =>
            if c.isDigit then pure (Opening.duplicate fd (some (c.toNat - 48)))
            else fail "Syntax error: Bad fd number"
          | _ => fail "Syntax error: Bad fd number"
        | .here fd w =>
          match ← attempt (expandText fuel w) with
          | some text => pure (Opening.here fd text)
          | none => pure Opening.broken
      return opening :: (← expandRedirections fuel rest)

/-- Run a compound command with redirections. -/
def redirected (fuel : Nat) (rs : List Redirection) (body : Act Unit) : Act Unit :=
  match fuel with
  | 0 => throw .unending
  | fuel + 1 => do
    if rs.isEmpty then body
    else
      let openings ← expandRedirections fuel rs
      match ← attempt (openAll openings) with
      | some r => r.around body
      | none => check

/-- Run a command. -/
def eval (fuel : Nat) (tail : Bool) (t : Tree) : Act Unit :=
  match fuel with
  | 0 => throw .unending
  | fuel + 1 => do
    if (← get).has 'n' then return ()
    settle fuel
    match t with
    | .nothing => pure ()
    | .located line body => do
      modify fun s => { s with line }
      eval fuel tail body
    | .simple assignments words rs => do
      evalSimple fuel tail assignments words rs
      let _ ← reap
      settle fuel
      check
    | .pipeline parts => do
      let _ ← freeJob
      let pids ← evalPipeline fuel false parts none
      let known ← awaitAll mourn pids [] fuel
      setStatus (statusOf (endOf known (pids.getLastD 0)))
      settle fuel
      check
    | .negation body => do
      guarded (eval fuel false body)
      modify fun s => { s with status := if s.status = 0 then 1 else 0 }
    | .conjunction left right => do
      guarded (eval fuel false left)
      if (← get).status = 0 then eval fuel tail right
    | .disjunction left right => do
      guarded (eval fuel false left)
      if (← get).status ≠ 0 then eval fuel tail right
    | .sequence left right => do
      eval fuel false left
      eval fuel tail right
    | .background body => do
      let number ← freeJob
      let pids ← match Tree.pipeline? body with
        | some parts => evalPipeline fuel true parts none
        | none => do
          let aside (s : Session) : Session :=
            { s with
              channels := Channels.replace s.channels 0 (some .null)
              isGuarded := false, deafTo := Session.deafAside ++ s.deafTo }
          let (bare, rs) := body.bare
          let openings ← expandRedirections fuel rs
          let inside : Act Unit := do
            replaceChannels (← openAll openings).channels
            eval fuel true bare
          pure [← spawn birthTime aside (toEnd fuel inside)]
      modify fun s => { s with
        jobs := ⟨number, pids.map (·, none), false⟩ :: s.jobs
        lastJob := pids.getLast?, status := 0 }
    | .group body rs => redirected fuel rs (eval fuel (tail && rs.isEmpty) body)
    | .subshell body rs => do
      let s ← get
      let openings ← expandRedirections fuel rs
      let inside : Act Unit := do
        replaceChannels (← openAll openings).channels
        eval fuel true body
      if tail && s.traps.all (·.2 = "") then inside
      else
        let _ ← freeJob
        takeStatus (← spawn birthTime id (toEnd fuel inside)) fuel
      settle fuel
      check
    | .conditional condition yes no rs =>
      redirected fuel rs do
        guarded (eval fuel false condition)
        let tail := tail && rs.isEmpty
        if (← get).status = 0 then eval fuel tail yes
        else
          match no with
          | .nothing => setStatus 0
          | no => eval fuel tail no
    | .loop negated condition body rs =>
      redirected fuel rs (evalLoop fuel negated condition body 0)
    | .each name words body rs =>
      redirected fuel rs do
        let items ← match words with
          | some ws => expandWords fuel ws
          | none => pure (← get).arguments
        if items.isEmpty then setStatus 0
        else evalEach fuel (String.ofList name) items body
    | .choice word arms rs =>
      redirected fuel rs do
        let text ← expandText fuel word
        evalChoice fuel (tail && rs.isEmpty) text.toList arms
    | .function name body => do
      modify fun s => { s with
        functions := (String.ofList name, body) :: s.functions, status := 0 }

/-- Repeat.  `status` is the one of the last turn. -/
def evalLoop (fuel : Nat) (negated : Bool) (condition body : Tree) (status : Nat) : Act Unit :=
  match fuel with
  | 0 => throw .unending
  | fuel + 1 => do
    match ← turn (guarded (eval fuel false condition)) with
    | .stop => setStatus status
    | .again => evalLoop fuel negated condition body status
    | .next =>
      if ((← get).status == 0) == negated then setStatus status
      else
        match ← turn (eval fuel false body) with
        | .stop => pure ()
        | _ => evalLoop fuel negated condition body (← get).status

/-- Run a body for each item. -/
def evalEach (fuel : Nat) (name : String) (items : List String) (body : Tree) : Act Unit :=
  match fuel with
  | 0 => throw .unending
  | fuel + 1 =>
    match items with
    | [] => pure ()
    | item :: rest => do
      Builtin.assign name item
      match ← turn (eval fuel false body) with
      | .stop => pure ()
      | _ => evalEach fuel name rest body

/-- Run the first arm that has a pattern which fits. -/
def evalChoice (fuel : Nat) (tail : Bool) (text : List Char) (arms : List (List Word × Tree)) :
    Act Unit :=
  match fuel with
  | 0 => throw .unending
  | fuel + 1 =>
    match arms with
    | [] => setStatus 0
    | (patterns, body) :: rest => do
      if ← fitsAny fuel text patterns then
        match body with
        | .nothing => setStatus 0
        | body => eval fuel tail body
      else evalChoice fuel tail text rest

/-- Whether one of some patterns fits. -/
def fitsAny (fuel : Nat) (text : List Char) (patterns : List Word) : Act Bool :=
  match fuel with
  | 0 => throw .unending
  | fuel + 1 =>
    match patterns with
    | [] => return false
    | w :: rest => do
      let marks ← expandWord fuel w
      let s ← get
      if Pattern.fits (Mark.glyphs (s.withoutGaps marks)) text then return true
      else fitsAny fuel text rest

/-- Start the commands of a pipeline, of which the first one reads from a pipe if there is a
`source`, and otherwise from nothing if the pipeline runs in the background.  Gives their
processes. -/
def evalPipeline (fuel : Nat) (isAside : Bool) (parts : List Tree) (source : Option Nat) :
    Act (List Nat) :=
  match fuel with
  | 0 => throw .unending
  | fuel + 1 => do
    match parts with
    | [] => return []
    | part :: rest =>
      let s ← get
      let target ← if rest.isEmpty then pure none else some <$> newPipe .empty false
      let input : Option Channel := match source with
        | some n => some (.pipe n .reads)
        | none => if isAside then some .null else s.channels.at? 0
      let output : Option Channel := match target with
        | some n => some (.pipe n .writes)
        | none => s.channels.at? 1
      let prepare (t : Session) : Session :=
        { t with
          channels := (t.channels.replace 0 input).replace 1 output, kept := s.kept
          deafTo := if isAside then Session.deafAside ++ t.deafTo else t.deafTo }
      -- The ends of the pipes stay open here until the processes have them.
      let ends := source.toList.map (Channel.pipe · .reads) ++
        target.toList.map (Channel.pipe · .both)
      let pid ← keeping ends (spawn birthTime prepare (toEnd fuel (eval fuel true part)))
      return pid :: (← evalPipeline fuel isAside rest target)

/-- Set variables to values that are expanded one after the other.  Gives what was set. -/
def assignAll (fuel : Nat) (exports : Bool) (assignments : List (List Char × Word)) :
    Act (List String) :=
  match fuel with
  | 0 => throw .unending
  | fuel + 1 =>
    match assignments with
    | [] => return []
    | (name, w) :: rest => do
      let name := String.ofList name
      let value ← expandValue fuel w
      Builtin.assign name value
      if exports then
        modify fun s => s.putVariable { s.variableOf name with isExported := true }
      return (name ++ "=" ++ value) :: (← assignAll fuel exports rest)

/-- Show a command before it is run, if that is wanted. -/
def show' (fuel : Nat) (words : List String) : Act Unit :=
  match fuel with
  | 0 => throw .unending
  | fuel + 1 => do
    let s ← get
    if s.has 'x' then
      let text := ((s.value? "PS4").getD "").toList
      let r : Reading := ⟨s.line, s.aliases, readInner s.aliases maxNesting⟩
      -- The mark must not be shown for commands in the mark.
      modify (Builtin.switch false 'x')
      let (w, _) ← readable s.line (readPieces r (4 * text.length + 8) .here 0 text)
      let mark ← expandText fuel w
      modify (Builtin.switch true 'x')
      say 2 (mark ++ Utility.joined words ++ "\n")

/-- Run a command without parts. -/
def evalSimple (fuel : Nat) (tail : Bool) (assignments : List (List Char × Word))
    (words : List Word) (rs : List Redirection) : Act Unit :=
  match fuel with
  | 0 => throw .unending
  | fuel + 1 => do
    pass builtinTime
    modify fun s => { s with substituted := none }
    let texts ← expandCommand fuel [] words
    let openings ← expandRedirections fuel rs
    let s ← get
    let target := Target.ofWords s texts.length false false texts
    let name := target.words.headD ""
    let function? := if target.isPlain then none else s.functions.find? (·.1 = name)
    let isSpecial := !target.isPlain && Builtin.isSpecial name
    match ← attempt (openAll openings) with
    | none => if isSpecial then throw .fault
    | some r =>
      -- What is shown goes where complaints went before the command.
      let shown (words : List String) : Act Unit := withChannels s.channels (show' fuel words)
      if target.words.isEmpty || isSpecial then
        let exports := name = "exec" && 1 < target.words.length
        let set ← r.around (assignAll fuel exports assignments)
        shown (set ++ texts)
        if target.words.isEmpty then
          modify fun s => { s with status := s.substituted.getD 0 }
        else runTarget fuel tail target none r
      else
        restoring (assignments.map fun (name, _) => String.ofList name) do
          let set ← r.around (assignAll fuel true assignments)
          shown (set ++ texts)
          runTarget fuel tail target (function?.map (·.2)) r

/-- Run what the words of a command name. -/
def runTarget (fuel : Nat) (tail : Bool) (target : Target) (function? : Option Tree)
    (r : Redirected) : Act Unit :=
  match fuel with
  | 0 => throw .unending
  | fuel + 1 => do
    let name := target.words.headD ""
    let args := target.words.drop 1
    match function? with
    | some body =>
      if maxCalls ≤ (← get).frames.length then
        fail s!"Maximum function recursion depth ({maxCalls}) reached"
      r.around (called args (eval fuel false body))
    | none =>
      if Builtin.isBuiltin name then
        let run := withCommand (some name) (runInside fuel name args r)
        -- A wrong use of a common command leaves only its status behind.
        if !target.isPlain && Builtin.isSpecial name then run
        else
          let _ ← attempt run
      else runProgram fuel tail target.isCommon name args r

/-- Run a command that the shell carries out itself. -/
def runInside (fuel : Nat) (name : String) (args : List String) (r : Redirected) : Act Unit :=
  match fuel with
  | 0 => throw .unending
  | fuel + 1 =>
    match name with
    | "exec" => do
      replaceChannels r.channels
      match args with
      | [] => setStatus 0
      | name :: args =>
        modify Session.exported
        match (← get).call name args with
        | .ok c => throw (.ended (← become fuel c))
        | .error e => do
          complain (programFault name e)
          throw (.exit (programStatus e))
    | "eval" => do
      let text := (Utility.joined args).toList
      if (skipAll text).isEmpty then setStatus 0
      r.around (evalText fuel false false text)
    | "." => r.around do
      match ← Builtin.operandsOf args with
      | [] => setStatus 0
      | path :: _ => do
        let s ← get
        match scriptPath? s path with
        | none => fail s!"{path}: not found"
        | some found =>
          match s.world.files.look s.dir found with
          | .error e => fail (readFailure found e)
          | .ok _ =>
            let bytes := (s.world.files.read s.dir found).toOption.getD []
            let text := (Bytes.toRaw bytes).toList
            if (skipAll text).isEmpty then setStatus 0
            withCommand (some found) (returning (unguarded (evalText fuel false true text)))
            modify fun t => { t with line := s.line }
    | "command" => r.around do
      let (options, names) ← Builtin.optionsOf "pvV" args
      let long := options.any (·.1 = 'V')
      match names with
      | name :: _ =>
        if options.any (·.1 ≠ 'p') then setStatus (← Builtin.describe long name) else setStatus 0
      | [] => setStatus 0
    | _ =>
      match Builtin.byName? name with
      | some f => do
        let status ← r.around (f args)
        setStatus status
      | none => setStatus 127
where
  /-- The path of a script, as it is looked for. -/
  scriptPath? (s : Session) (path : String) : Option String :=
    if path.toList.contains '/' then some path
    else
      (Program.candidates s.searchPath path).find? fun candidate =>
        match s.world.files.look s.dir candidate with
        | .ok node => node.isFile
        | .error _ => false

/-- Run a program. -/
def runProgram (fuel : Nat) (tail common : Bool) (name : String) (args : List String)
    (r : Redirected) : Act Unit :=
  match fuel with
  | 0 => throw .unending
  | fuel + 1 => do
    let s ← get
    let search := if common then s.setValue "PATH" Machine.searchPath else s
    let isPath := name.toList.contains '/'
    match search.find name, isPath with
    | .error e, false => r.around do
      complain (programFault name e)
      setStatus 127
    | _, _ => do
      if !isPath then
        modify fun s => { s with hashed := name :: s.hashed.filter (· ≠ name) }
      let body : Act WaitStatus := do
        modify Session.exported
        let s ← get
        let search := if common then s.setValue "PATH" Machine.searchPath else s
        match search.call name args with
        | .ok c => become fuel c
        | .error e => do
          complain (programFault name e)
          return .exited (programStatus e)
      if tail && s.traps.all (·.2 = "") then
        replaceChannels r.channels
        throw (.ended (← body))
      else r.around do
        let _ ← freeJob
        takeStatus (← spawn shortBirthTime id body) fuel

/-- Run the actions that are due, those of the lower signals first. -/
def settle (fuel : Nat) : Act Unit :=
  match fuel with
  | 0 => throw .unending
  | fuel + 1 => do
    let s ← get
    match s.pending.min? with
    | none => pure ()
    | some signal =>
      if maxActions ≤ s.actions then throw (.ended (.signalled 11))
      set { s with
        pending := s.pending.filter (· ≠ signal), actions := s.actions + 1
        interrupted := some (s.interrupted.getD s.status) }
      match s.traps.find? (·.1 = signal) with
      | some (_, action) =>
        unguarded (evalText fuel false false action.toList)
        setStatus (s.interrupted.getD s.status)
      | none => pure ()
      modify fun t => { t with interrupted := s.interrupted, actions := s.actions }
      settle fuel

/-- Run a text from its first line on. -/
def evalText (fuel : Nat) (tail fromFile : Bool) (cs : List Char) : Act Unit :=
  match fuel with
  | 0 => throw .unending
  | fuel + 1 => evalLines fuel tail fromFile (1 + countLines cs) cs

/-- Run the rest of a text, one complete command at a time.  `lastLine` is the number of its last
line. -/
def evalLines (fuel : Nat) (tail fromFile : Bool) (lastLine : Nat) (cs : List Char) : Act Unit :=
  match fuel with
  | 0 => throw .unending
  | fuel + 1 => do
    let (tree, rest) ← readable lastLine (readComplete (← get).aliases lastLine cs)
    if fromFile && (← get).has 'v' then say 2 (String.ofList (cs.take (cs.length - rest.length)))
    match tree with
    | none => pure ()
    | some tree => do
      eval fuel (tail && (skipAll rest).isEmpty) tree
      evalLines fuel tail fromFile lastLine rest

/-- Run a body to the end of its shell, with the action that was arranged for it. -/
def toEnd (fuel : Nat) (body : Act Unit) : Act WaitStatus :=
  match fuel with
  | 0 => throw .unending
  | fuel + 1 => do
    let status ← statusAtEnd body
    let s ← get
    match s.traps.find? (·.1 = 0) with
    | none => return .exited (status % 256)
    | some (_, action) => do
      set { s with
        traps := s.traps.filter (·.1 ≠ 0), status, interrupted := some status, loops := 0 }
      let last ← statusAtEnd do
        returning (unguarded (evalText fuel false false action.toList))
        setStatus status
      return .exited (last % 256)

/-- Let a program take the place of this process. -/
def become (fuel : Nat) (c : Program.Call) : Act WaitStatus :=
  match fuel with
  | 0 => throw .unending
  | fuel + 1 => do
    modify fun s => { s.forgetActions with kept := [] }
    if c.utility = "sh" || c.utility = "dash" then beShell fuel c
    else
      match Starter.byName? c.utility with
      | some start =>
        start
          (fun name args => do
            let s ← get
            let search := if (s.value? "PATH").isSome then s
              else s.setValue "PATH" Program.commonPath
            match search.call name args with
            | .ok c => return .ok (← become fuel c)
            | .error e => return .error e)
          c
      | none =>
        match Utility.byName? c.utility with
        | some f => runUtility c f
        | none => return .exited 127

/-- Become a shell. -/
def beShell (fuel : Nat) (c : Program.Call) : Act WaitStatus :=
  match fuel with
  | 0 => throw .unending
  | fuel + 1 => do
    pass Utility.startup
    let refuse (message : String) : Act WaitStatus := do
      say 2 s!"{c.name}: 0: {message}\n"
      return .exited 2
    match Invocation.read c.name c.args with
    | .error message => refuse message
    | .ok i =>
      let s ← get
      let enter : Act Unit := do
        set ((← get).begin i)
        modify fun s => { s with line := 0 }
        if (← get).has 'i' then modify (Builtin.switch true 'm')
        Builtin.settleMonitor
        modify fun s => { s with line := 1 }
      match i.script with
      | .text cs => do
        enter
        toEnd fuel (evalText fuel false false cs)
      | .input => do
        let input ← drain 0 .empty fuel
        enter
        let text := Bytes.toRaw (input.toOption.getD .empty).toBytes
        toEnd fuel (evalText fuel false true text.toList)
      | .file path =>
        match s.world.files.look s.dir path with
        | .error e => refuse (readFailure path e)
        | .ok _ => do
          let bytes := (s.world.files.read s.dir path).toOption.getD []
          enter
          toEnd fuel (evalText fuel false true (Bytes.toRaw bytes).toList)

end

end Outflow.Shell
