import Outflow.Host.Utility.Basic
import Outflow.Regex.Reader

/-!
# Searching

Writing the lines in which one of some expressions has a match.
-/

namespace Outflow.Utility

/-- How a search is done and shown. -/
structure Search where
  regex : Regex
  /-- Lines without a match are wanted. -/
  inverts : Bool
  shown : Char → Bool
  /-- The most lines of a file. -/
  most : Option Nat
  before : Nat
  after : Nat
  /-- Whether the name of the file stands before each line. -/
  named : Bool

/-- A line with its number, and whether it is one of the wanted. -/
structure SearchedLine where
  number : Nat
  text : Bytes
  isWanted : Bool

/-- All parts of a line that match and are not empty, with their places. -/
def matchesIn (r : Regex) (fuel : Nat) (offset : Nat) (previous : Option UInt8) (line : Bytes) :
    List (Nat × Bytes) :=
  match fuel with
  | 0 => []
  | fuel + 1 =>
    match r.findFrom [] previous line with
    | none => []
    | some found =>
      let start := offset + found.before.length
      if found.matched.isEmpty then
        match found.after with
        | b :: rest => matchesIn r fuel (start + 1) (some b) rest
        | [] => []
      else
        (start, found.matched) ::
          matchesIn r fuel (start + found.matched.length) found.matched.getLast? found.after

/-- The lines of a file up to the last one that is wanted, with those around it. -/
def Search.mark (s : Search) (ls : List Bytes) : List SearchedLine :=
  let marked := (ls.zip (List.range ls.length)).map fun (line, i) =>
    (⟨i + 1, line, s.regex.occursIn line != s.inverts⟩ : SearchedLine)
  match s.most with
  | none => marked
  | some most =>
    let wanted := (marked.filter (·.isWanted)).take most
    let last := (wanted.getLast?.map (·.number)).getD 0
    marked.filterMap fun l =>
      if l.number ≤ last then some l
      else if l.number ≤ last + s.after && most ≠ 0 then some { l with isWanted := false }
      else none

/-- One line as it is written. -/
def Search.show (s : Search) (name : String) (l : SearchedLine) : Bytes :=
  let mark := if l.isWanted then ":" else "-"
  let front := (if s.named then name ++ mark else "") ++
    (if s.shown 'n' then toString l.number ++ mark else "")
  if s.shown 'o' then
    if s.inverts || !l.isWanted then []
    else
      (matchesIn s.regex (l.text.length + 1) 0 none l.text).flatMap fun (start, part) =>
        let place := if s.shown 'b' then s!"{start}:" else ""
        Bytes.ofRaw (front ++ place) ++ part ++ [Bytes.newline]
  else Bytes.ofRaw front ++ l.text ++ [Bytes.newline]

/-- The lines of a file that are written, with a mark between parts that are apart. -/
def Search.report (s : Search) (name : String) (ls : List SearchedLine) : Bytes :=
  let isNear (l : SearchedLine) : Bool := ls.any fun w =>
    w.isWanted && w.number ≤ l.number + s.before && l.number ≤ w.number + s.after
  let kept := ls.filter isNear
  let spaced := 0 < s.before || 0 < s.after
  let step (acc : Bytes × Option Nat) (l : SearchedLine) : Bytes × Option Nat :=
    let gap := spaced && acc.2.any fun n => n + 1 < l.number
    (acc.1 ++ (if gap then Bytes.ofRaw "--\n" else []) ++ s.show name l, some l.number)
  (kept.foldl step ([], none)).1

/-- The files below some paths. -/
def searchFiles (o : Occasion) (recursive : Bool) (paths : List String) : List String :=
  paths.flatMap fun path =>
    match o.files.resolve o.dir path with
    | .ok found =>
      if recursive && o.files.isDirectory found then
        let below := (o.files.subtree found).filter fun (p, node) => p ≠ [] && node.isFile
        (below.map fun (p, _) => Utility.below path ("/".intercalate p)).mergeSort textLe
      else [path]
    | .error _ => [path]

/-- The words of the options of a search. -/
def searchWords : List (String × Char) :=
  [("extended-regexp", 'E'), ("fixed-strings", 'F'), ("basic-regexp", 'G'), ("regexp", 'e'),
   ("file", 'f'), ("ignore-case", 'i'), ("word-regexp", 'w'), ("line-regexp", 'x'),
   ("no-messages", 's'), ("invert-match", 'v'), ("max-count", 'm'), ("byte-offset", 'b'),
   ("line-number", 'n'), ("with-filename", 'H'), ("no-filename", 'h'), ("only-matching", 'o'),
   ("quiet", 'q'), ("silent", 'q'), ("text", 'a'), ("recursive", 'r'),
   ("files-without-match", 'L'), ("files-with-matches", 'l'), ("count", 'c'),
   ("after-context", 'A'), ("before-context", 'B'), ("context", 'C')]

/-- The expression for any of some patterns. -/
def readPatterns (flags : Flags) (extended plain : Bool) (patterns : List String) :
    Except Regex.Fault Regex := do
  let style : Regex.Style := ⟨extended, flags.has 'i' || flags.has 'y'⟩
  let lines := patterns.flatMap fun p => p.toList.splitOn '\n'
  let each ← lines.mapM fun cs =>
    if plain then .ok (Regex.ofPlain style cs) else Regex.ofText style cs
  let either := match each with
    | [] => .one ⟨[], false⟩
    | r :: rs => rs.foldl .either r
  if flags.has 'x' then return .seq (.spot .start) (.seq either (.spot .finish))
  else if flags.has 'w' then
    return .seq (.spot .noWordBefore) (.seq either (.spot .noWordAfter))
  else return either

/-- Arguments with a number after a hyphen as a number of lines around a match. -/
def renewContext (args : List String) : List String :=
  args.map fun arg =>
    match arg.toList with
    | '-' :: c :: cs => if (c :: cs).all Char.isDigit then s!"-C{String.ofList (c :: cs)}" else arg
    | _ => arg

/-- Write the lines that match. -/
def grep (mode : Char) (o : Occasion) : Effect :=
  withFlags { o with args := renewContext o.args } 2 "EFGPe:f:iyvwxcLlm:oqsbHhnaIrRzA:B:C:"
    searchWords fun flags =>
    let usage : Effect :=
      finish o 2 [.err (Bytes.ofRaw (s!"Usage: {o.name} [OPTION]... PATTERNS [FILE]...\n" ++
        s!"{hint o}\n"))]
    let listed := (flags.values 'f').flatMap fun path =>
      match openFile o path with
      | .ok flow => (bareLines flow).map Bytes.toRaw
      | .error _ => []
    let missing := (flags.values 'f').find? fun path => !(openFile o path).isOk
    let given := flags.values 'e' ++ listed
    let isGiven := flags.has 'e' || flags.has 'f'
    let patterns? := if isGiven then some (given, flags.operands) else
      match flags.operands with
      | p :: rest => some ([p], rest)
      | [] => none
    match patterns?, missing with
    | none, _ => usage
    | _, some path =>
      complain o 2 s!"{path}: No such file or directory"
    | some (patterns, paths), none =>
      let kind := (flags.last? ['E', 'F', 'G', 'P']).getD mode
      match readPatterns flags (kind = 'E' || kind = 'P') (kind = 'F') patterns with
      | .error e => complain o 2 e.message
      | .ok regex =>
        let number (c : Char) : Option Nat := (flags.value? c).bind readNat
        let recursive := flags.has 'r' || flags.has 'R'
        let paths := if paths.isEmpty then [if recursive then "." else "-"] else paths
        let files := searchFiles o recursive paths
        let around := number 'C'
        let s : Search :=
          { regex, inverts := flags.has 'v', shown := flags.has, most := number 'm'
            before := ((number 'B').orElse fun () => around).getD 0
            after := ((number 'A').orElse fun () => around).getD 0
            named := match flags.last? ['h', 'H'] with
              | some c => c == 'H'
              | none => 1 < files.length || recursive }
        -- How many lines have to be found before the rest of a file does not matter.
        let enough := if flags.has 'q' || flags.has 'l' then some 1 else number 'm'
        let rest : Remainder :=
          match enough with
          | none => remaining o paths
          | some enough =>
            let ls := Flow.lines (inputFlow o).toBytes
            let marks := (s.mark (bareLines (inputFlow o))).map (·.isWanted)
            let used := (ls.zip marks).foldl
              (fun (acc : Nat × Nat) (line, isWanted) =>
                if enough ≤ acc.1 then acc
                else (acc.1 + if isWanted then 1 else 0, acc.2 + line.length))
              (0, 0)
            if enough ≤ used.1 && paths.any (isInput o) then leftover o 32768 used.2
            else remaining o paths
        let step (acc : List Piece × Bool × Bool) (path : String) : List Piece × Bool × Bool :=
          let (pieces, matched, bad) := acc
          let name := if path = "-" then "(standard input)" else path
          let isQuiet := ['q', 'l', 'L', 'c'].any flags.has || (number 'm').any (· ≤ 1)
          match openFile o path with
          | .error e =>
            (pieces ++ (if flags.has 's' then [] else [grumble o (fileFault path e)]),
              matched, true)
          | .ok flow =>
            if isOwnOutput o path && !isQuiet then
              let note := grumble o s!"{name}: input file is also the output"
              (pieces ++ [note], matched, true)
            else
            let bytes := flow.toBytes
            let ls := s.mark (bareLines flow)
            let wanted := (ls.filter (·.isWanted)).length
            let found := 0 < wanted
            let text : Bytes :=
              if flags.has 'q' then []
              else if flags.has 'l' then if found then Bytes.ofRaw (name ++ "\n") else []
              else if flags.has 'L' then if found then [] else Bytes.ofRaw (name ++ "\n")
              else if flags.has 'c' then
                Bytes.ofRaw ((if s.named then name ++ ":" else "") ++ s!"{wanted}\n")
              else if bytes.contains 0 && !flags.has 'a' then []
              else s.report name ls
            let isBinary := found && bytes.contains 0 &&
              !(['q', 'l', 'L', 'c', 'a'].any flags.has)
            let notes := if isBinary then [grumble o s!"{name}: binary file matches"] else []
            let isHit := if flags.has 'L' then !found else found
            (pieces ++ [.out (.ofBytes text)] ++ notes, matched || isHit, bad)
        let (pieces, matched, bad) := files.foldl step ([], false, false)
        let status := if bad && !(matched && flags.has 'q') then 2 else if matched then 0 else 1
        { finish o status pieces with rest }

end Outflow.Utility
