import Outflow.Host.Utility.Basic
import Outflow.Host.Utility.EditScript

/-!
# Editing a stream

Running a script on each line of the input.  A line is in the space while the commands of the
script go over it; after the last one it is written, and the next line comes.
-/

namespace Outflow.Edit

/-- A line, and whether a newline followed it. -/
structure Line where
  text : Bytes
  isWhole : Bool

/-- The state of an edit. -/
structure State where
  space : Line
  held : Bytes
  number : Nat
  rest : List Line
  /-- A substitution has been made since the last line was read. -/
  changed : Bool
  /-- What is written after the line, in order. -/
  appended : List Bytes
  /-- The commands whose range is open, each with the line at which it closes, if that is
  known. -/
  open' : List (Nat × Option Nat)
  lastPattern : Option Regex
  /-- Newest first. -/
  out : List Bytes
  /-- The last line that was written lacks its newline. -/
  lacksNewline : Bool
  /-- What was written to files, by path. -/
  written : List (String × Bytes)

/-- How scripts are run. -/
structure Setting where
  steps : Array Step
  isQuiet : Bool
  /-- What a path of a command that reads leads to. -/
  read : String → Option Bytes
  name : String

/-! ### Output -/

/-- Write octets. -/
def State.put (s : State) (bytes : Bytes) : State :=
  if bytes.isEmpty then s
  else
    let front : Bytes := if s.lacksNewline then [Bytes.newline] else []
    { s with out := (front ++ bytes) :: s.out, lacksNewline := false }

/-- Write a line. -/
def State.putLine (s : State) (line : Line) : State :=
  let s := if line.text.isEmpty then s else s.put line.text
  if line.isWhole then
    let front : Bytes := if s.lacksNewline && line.text.isEmpty then [Bytes.newline] else []
    { s with out := (front ++ [Bytes.newline]) :: s.out, lacksNewline := false }
  else { s with lacksNewline := true }

/-- Write to a file. -/
def State.putFile (s : State) (path : String) (bytes : Bytes) : State :=
  if path = "/dev/stdout" then s.put bytes
  else
    { s with written := s.written.map fun (p, old) =>
        if p = path then (p, old ++ bytes) else (p, old) }

/-- Write what waits for the end of the line. -/
def State.flush (s : State) : State :=
  { s.appended.foldl State.put s with appended := [] }

/-- A line in a form that shows all octets, broken at seventy columns. -/
def plainly (text : Bytes) : Bytes :=
  let unit (b : UInt8) : List Char :=
    if b = 92 then ['\\', '\\']
    else
      let c := Char.ofNat b.toNat
      if isShown c then [c] else shownEscape c
  let step (acc : List Char × Nat) (cs : List Char) : List Char × Nat :=
    if 69 < acc.2 + cs.length then (acc.1 ++ ['\\', '\n'] ++ cs, cs.length)
    else (acc.1 ++ cs, acc.2 + cs.length)
  let (cs, _) := (text.map unit).foldl step ([], 0)
  Bytes.ofRaw (String.ofList (cs ++ ['$', '\n']))

/-! ### Addresses -/

/-- The expression that is meant, and the state that remembers it. -/
def State.pattern (s : State) (r : Option Regex) : Option Regex × State :=
  match r with
  | some r => (some r, { s with lastPattern := some r })
  | none => (s.lastPattern, s)

/-- Whether the line is the one of an address. -/
def State.isAt (s : State) (a : Address) : Bool × State :=
  match a with
  | .line n => (s.number == n, s)
  | .last => (s.rest.isEmpty, s)
  | .pattern r =>
    let (r, s) := s.pattern r
    (r.any fun r => r.occursIn s.space.text, s)
  | .every first step =>
    (if step = 0 then s.number == first
      else decide (first ≤ s.number) && (s.number - first) % step == 0, s)
  | .plus _ => (false, s)
  | .multiple _ => (false, s)

/-- Whether a range that is open goes on, and the state after this line.  `k` is the place of its
command. -/
def State.goesOn (s : State) (k : Nat) (stop : Option Nat) (second : Address) : Bool × State :=
  let close (s : State) : State := { s with open' := s.open'.filter (·.1 ≠ k) }
  match stop with
  | some n => (s.number ≤ n, if n ≤ s.number then close s else s)
  | none =>
    let (hit, s) := s.isAt second
    (true, if hit then close s else s)

/-- Whether a command is for the line.  `k` is its place. -/
def State.chosen (s : State) (k : Nat) (g : Guard) : Bool × State :=
  let (hit, s) : Bool × State :=
    match g.first, g.second with
    | none, _ => (true, s)
    | some a, none => s.isAt a
    | some a, some b =>
      match s.open'.find? (·.1 = k) with
      | some (_, stop) => s.goesOn k stop b
      | none =>
        let fromStart := match a with | .line 0 => s.number == 1 | _ => false
        let (hit, s) := if fromStart then (true, s) else s.isAt a
        if !hit then (false, s)
        else
          let stop : Option Nat := match b with
            | .line n => some n
            | .plus n => some (s.number + n)
            | .multiple n => some (if n = 0 then s.number else (s.number + n - 1) / n * n)
            | _ => none
          if stop.any (· ≤ s.number) then (true, s)
          else
            let s := { s with open' := (k, stop) :: s.open' }
            if fromStart then s.goesOn k stop b else (true, s)
  (hit != g.isNegated, s)

/-! ### Substitution -/

/-- A letter in another case. -/
def withCase (c : Casing) (b : UInt8) : UInt8 :=
  match c with
  | .upper => if 97 ≤ b && b ≤ 122 then b - 32 else b
  | .upperNext => if 97 ≤ b && b ≤ 122 then b - 32 else b
  | .lower => if 65 ≤ b && b ≤ 90 then b + 32 else b
  | .lowerNext => if 65 ≤ b && b ≤ 90 then b + 32 else b
  | .plain => b

/-- Octets in the case that is asked for: `once` counts for the first of them. -/
def cased (lasting once : Casing) : Bytes → Bytes
  | [] => []
  | b :: rest =>
    (if once = .plain then withCase lasting b else withCase once b) :: rest.map (withCase lasting)

/-- The text of a replacement. -/
def fill (found : Regex.Found) (lasting once : Casing) : List Part → Bytes
  | [] => []
  | .casing c :: rest =>
    match c with
    | .upperNext => fill found lasting .upperNext rest
    | .lowerNext => fill found lasting .lowerNext rest
    | c => fill found c once rest
  | .text b :: rest => cased lasting once [b] ++ fill found lasting .plain rest
  | .group n :: rest =>
    let bytes := if n = 0 then found.matched
      else ((found.groups.find? (·.1 = n)).map (·.2)).getD []
    cased lasting once bytes ++ fill found lasting (if bytes.isEmpty then once else .plain) rest

/-- Replace matches.  `count` is the number of the next match, and `touching` says that a match
ended just before.  Tells whether anything was replaced. -/
def replace (sub : Substitution) (r : Regex) (fuel count : Nat) (touching : Bool)
    (previous : Option UInt8) (text : Bytes) : Bytes × Bool :=
  match fuel with
  | 0 => (text, false)
  | fuel + 1 =>
    match r.findFrom [] previous text with
    | none => (text, false)
    | some found =>
      let isEmpty := found.matched.isEmpty
      let ignored := isEmpty && touching && found.before.isEmpty
      let hit := !ignored && sub.number ≤ count
      let shown := if hit then fill found .plain .plain sub.replacement else found.matched
      if hit && !sub.isGlobal then (found.before ++ shown ++ found.after, true)
      else
        let count := if ignored then count else count + 1
        match isEmpty, found.after with
        | true, [] => (found.before ++ shown, hit)
        | true, b :: rest =>
          let (more, changed) := replace sub r fuel count false (some b) rest
          (found.before ++ shown ++ b :: more, hit || changed)
        | false, after =>
          let (more, changed) := replace sub r fuel count true found.matched.getLast? after
          (found.before ++ shown ++ more, hit || changed)

/-! ### Running -/

/-- How a run of a script ends. -/
inductive Ending where
  | done (s : State)
  | quit (s : State) (status : Nat)
  /-- It uses an expression before there was any. -/
  | noPattern (s : State)
  | endless (s : State)

/-- The place of a label. -/
def Setting.target (p : Setting) (name : String) : Nat :=
  if name = "" then p.steps.size
  else
    (p.steps.findIdx? fun step => match step.action with
      | .label l => l = name
      | _ => false).getD p.steps.size

/-- The end of the work on a line. -/
def Setting.close (p : Setting) (s : State) : State :=
  (if p.isQuiet then s else s.putLine s.space).flush

/-- Run the steps from a place on. -/
def Setting.run (p : Setting) (fuel k : Nat) (s : State) : Ending :=
  match fuel with
  | 0 => .endless s
  | fuel + 1 =>
    -- Take the next line, or end.
    let advance (s : State) : Ending :=
      match s.rest with
      | [] => .done s
      | line :: rest =>
        p.run fuel 0 { s with space := line, rest, number := s.number + 1, changed := false }
    match p.steps[k]? with
    | none => advance (p.close s)
    | some step =>
      let (hit, s) := s.chosen k step.guard
      let go (s : State) : Ending := p.run fuel (k + 1) s
      if !hit then
        match step.action with
        | .block size => p.run fuel (k + 1 + size) s
        | _ => go s
      else
        let isOpen := s.open'.any (·.1 = k)
        match step.action with
        | .block _ => go s
        | .nothing => go s
        | .label _ => go s
        | .append text => go { s with appended := s.appended ++ [text] }
        | .insert text => go (s.put text)
        | .change text =>
          let s := if isOpen && !step.guard.isNegated then s else s.put text
          advance s.flush
        | .jump name => p.run fuel (p.target name) s
        | .jumpIf changed name =>
          if s.changed == changed then p.run fuel (p.target name) { s with changed := false }
          else go { s with changed := false }
        | .delete => advance s.flush
        | .deleteFirst =>
          match s.space.text.dropWhile (· ≠ Bytes.newline) with
          | [] => advance s.flush
          | _ :: text => p.run fuel 0 { s.flush with space := { s.space with text } }
        | .show => go (s.putLine s.space)
        | .showFirst =>
          let first := s.space.text.takeWhile (· ≠ Bytes.newline)
          go (s.put (first ++ [Bytes.newline]))
        | .showPlainly => go (s.put (plainly s.space.text))
        | .lineNumber => go (s.put (Bytes.ofRaw s!"{s.number}\n"))
        | .fileName => go (s.put (Bytes.ofRaw (p.name ++ "\n")))
        | .next =>
          match s.rest with
          | [] => .done (p.close s)
          | line :: rest =>
            go { p.close s with space := line, rest, number := s.number + 1 }
        | .nextAppended =>
          match s.rest with
          | [] => .done (p.close s)
          | line :: rest =>
            let text := s.space.text ++ Bytes.newline :: line.text
            go { s.flush with space := ⟨text, line.isWhole⟩, rest, number := s.number + 1 }
        | .hold append =>
          let text := if append then s.held ++ Bytes.newline :: s.space.text else s.space.text
          go { s with held := text }
        | .fetch append =>
          let text := if append then s.space.text ++ Bytes.newline :: s.held else s.held
          go { s with space := { s.space with text } }
        | .exchange =>
          go { s with held := s.space.text, space := { s.space with text := s.held } }
        | .quit true status => .quit s status
        | .quit false status => .quit (p.close s) status
        | .readFile path => go { s with appended := s.appended ++ [(p.read path).getD []] }
        | .writeFile first path =>
          let text := if first then s.space.text.takeWhile (· ≠ Bytes.newline) else s.space.text
          go (s.putFile path (text ++ [Bytes.newline]))
        | .emptySpace => go { s with space := { s.space with text := [] } }
        | .transliterate pairs =>
          let text := s.space.text.map fun b => ((pairs.find? (·.1 = b)).map (·.2)).getD b
          go { s with space := { s.space with text } }
        | .substitute sub =>
          match s.pattern sub.pattern with
          | (none, s) => .noPattern s
          | (some r, s) =>
            let (text, changed) :=
              replace sub r (2 * s.space.text.length + 2) 1 false none s.space.text
            if !changed then go s
            else
              let s := { s with space := { s.space with text }, changed := true }
              let s := if sub.prints then s.putLine s.space else s
              go (match sub.file with
                | some path => s.putFile path (text ++ [Bytes.newline])
                | none => s)

/-- The paths that a script writes to. -/
def targets (steps : List Step) : List String :=
  steps.filterMap fun step => match step.action with
    | .writeFile _ path => some path
    | .substitute s => s.file
    | _ => none

/-- How many steps are taken before a script is taken for endless. -/
def fuel : Nat := 300000

/-- Run a script on lines. -/
def Setting.start (p : Setting) (held : Bytes) (ls : List Line) : Ending :=
  let s : State :=
    { space := ⟨[], true⟩, held, number := 0, rest := [], changed := false, appended := []
      open' := [], lastPattern := none, out := [], lacksNewline := false
      written := (targets p.steps.toList).eraseDups.map (·, []) }
  match ls with
  | [] => .done s
  | line :: rest => p.run fuel 0 { s with space := line, rest, number := 1 }

end Edit

namespace Utility

/-- Lines with a note whether they are whole. -/
def editLines (flow : Flow) : List Edit.Line :=
  (Flow.lines flow.toBytes).map fun line =>
    if line.getLast? = some Bytes.newline then ⟨line.dropLast, true⟩ else ⟨line, false⟩

/-- The lines of several files as one text: only the last of all can lack its newline. -/
def joinLines (files : List (List Edit.Line)) : List Edit.Line :=
  let all := files.flatten
  all.dropLast.map (fun l => { l with isWhole := true }) ++ all.getLast?.toList

/-- The words of the options of a stream editor. -/
def editWords : List (String × Char) :=
  [("quiet", 'n'), ("silent", 'n'), ("expression", 'e'), ("file", 'f'), ("in-place", 'i'),
   ("regexp-extended", 'E'), ("separate", 's'), ("unbuffered", 'u')]

/-- What is left of the files when a script has run: what was written to its files. -/
def storeWritten (o : Occasion) (files : Files) (written : List (String × Bytes)) : Files :=
  written.foldl
    (fun files (path, bytes) =>
      match openTarget o files path with
      | .ok (.file found) => store o files found false bytes
      | _ => files)
    files

/-- Edit the lines of files. -/
def sed (o : Occasion) : Effect :=
  withFlags o 1 "ne:f:i::Erszu" editWords fun flags =>
    let fromFile (path : String) : Option String :=
      (openFile o path).toOption.map fun flow =>
        let text := Bytes.toRaw flow.toBytes
        if text.toList.getLast? = some '\n' then String.ofList text.toList.dropLast else text
    let parts := flags.options.filterMap fun (c, value) =>
      if c = 'e' then some value else if c = 'f' then fromFile value else none
    let isGiven := flags.has 'e' || flags.has 'f'
    let (script?, paths) := if isGiven then (some ("\n".intercalate parts), flags.operands) else
      (flags.operands.head?, flags.operands.drop 1)
    match script?, (flags.values 'f').find? fun path => (fromFile path).isNone with
    | _, some path => complain o 1 s!"couldn't open file {path}: No such file or directory"
    | none, _ =>
      finish o 1 [.err (Bytes.ofRaw
        s!"Usage: {o.name} [OPTION]... \x7bscript-only-if-no-other-script\x7d [input-file]...\n")]
    | some script, none =>
      match Edit.readScript (flags.has 'E' || flags.has 'r') script.toList with
      | .error e => complain o 1 s!"-e expression #1, char {e.place}: {e.text}"
      | .ok steps =>
        -- A first line that says so makes the edit quiet.
        let isQuiet := flags.has 'n' || script.toList = ['#', 'n'] ||
          (script.toList.take 3) = ['#', 'n', '\n']
        let labels := steps.filterMap fun step => match step.action with
          | .label name => some name
          | _ => none
        let missing := steps.findSome? fun step => match step.action with
          | .jump name => if name = "" || labels.contains name then none else some name
          | .jumpIf _ name => if name = "" || labels.contains name then none else some name
          | _ => none
        match missing with
        | some name =>
          complain o 1 s!"can't find label for jump to \x60{name}'"
        | none =>
          let sources := sources paths
          let g := gatherWith o sources fun path e =>
            if e = .os 21 then
              if flags.has 'i' then s!"couldn't edit {path}: not a regular file"
              else s!"read error on {path}: {errorText e}"
            else s!"can't read {path}: {errorText e}"
          let setting (name : String) : Edit.Setting :=
            ⟨steps.toArray, isQuiet, fun path => (openFile o path).toOption.map Flow.toBytes, name⟩
          let bad := if g.complaints.isEmpty then 0 else 2
          let result (s : Edit.State) : Bytes := s.out.reverse.flatten
          let ended : Edit.Ending → Edit.State × Nat × Bool
            | .done s => (s, bad, false)
            | .quit s status => (s, if status = 0 then bad else status, true)
            | .noPattern s => (s, 1, true)
            | .endless s => (s, 0, true)
          if flags.has 'i' then
            let step (acc : Files × List Piece × Nat × Bool) (source : String × Flow) :
                Files × List Piece × Nat × Bool :=
              let (files, pieces, status, stopped) := acc
              if stopped then acc
              else
                let (s, code, quits) := ended
                  ((setting source.1).start [] (editLines source.2))
                let rest := if quits then
                  s.rest.flatMap fun l => l.text ++ if l.isWhole then [Bytes.newline] else []
                  else []
                let files := match openTarget o files source.1 with
                  | .ok (.file found) => store o files found false (result s ++ rest)
                  | _ => files
                (storeWritten o files s.written, pieces, max status code, quits)
            let (files, pieces, status, _) := g.read.foldl step (o.files, g.complaints, bad, false)
            { finish o status pieces with files, rest := remaining o sources }
          else
            let ending := (setting (sources.headD "-")).start []
              (joinLines (g.read.map fun (_, flow) => editLines flow))
            let (s, status, quits) := ended ending
            let notes := match ending with
              | .noPattern _ => [grumble o "no previous regular expression"]
              | _ => []
            let used := (inputFlow o).toBytes.length -
              (s.rest.map fun l => l.text.length + 1).foldl (· + ·) 0
            let e := finish o status (g.complaints ++ [.out (.ofBytes (result s))] ++ notes)
            { e with
              rest :=
                if !sources.any (isInput o) then untouched o
                else if quits then leftover o 4096 used
                else remaining o sources
              files := storeWritten o o.files s.written
              micros := match ending with
                | .endless _ => forever
                | _ => startup }

end Utility

end Outflow
