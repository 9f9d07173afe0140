import Outflow.Host.Format
import Outflow.Host.Utility.Basic

/-!
# Programs that write, cut and count text

What is written out, the first and the last part of files, and lines in other forms.
-/

namespace Outflow.Utility

/-- Write the arguments.  Escapes are left alone unless they are asked for. -/
def echo (o : Occasion) : Effect :=
  let isFlag (arg : String) : Bool :=
    match arg.toList with
    | '-' :: c :: cs => (c :: cs).all (['n', 'e', 'E'].contains ·)
    | _ => false
  let flags := (o.args.takeWhile isFlag).flatMap fun arg => arg.toList.drop 1
  let text := joined (o.args.dropWhile isFlag)
  let escapes := (flags.filter (· ≠ 'n')).getLast? == some 'e'
  let (bytes, stop) := if escapes then Format.unescape true text else (Bytes.ofRaw text, false)
  write o (.ofBytes (bytes ++ if flags.contains 'n' || stop then [] else [Bytes.newline]))

/-- The complaint about something in a format that cannot be used. -/
def misfitText : Format.Misfit → String
  | .number arg true => s!"{quoted arg}: value not completely converted"
  | .number arg false => s!"{quoted arg}: expected a numeric value"
  | .surplus text =>
    s!"warning: {text}: character(s) following character constant have been ignored"
  | .range arg => s!"{quoted arg}: Numerical result out of range"
  | .directive text => s!"{text}: invalid conversion specification"
  | .unfinished text => s!"{text}: invalid conversion specification"
  | .size true arg => s!"invalid field width: {quoted arg}"
  | .size false arg => s!"invalid precision: {quoted arg}"
  | .length => "write error"
  | .escape => "missing hexadecimal number in escape"
  | .excess arg => s!"warning: ignoring excess arguments, starting with {quoted arg}"

/-- Write formatted arguments. -/
def printf (o : Occasion) : Effect :=
  match (if o.args.head? = some "--" then o.args.drop 1 else o.args) with
  | [] => misuse o 1 "missing operand"
  | format :: args =>
    let (bytes, bad) := Format.output ⟨.extended, true⟩ format args
    let harmless : Format.Misfit → Bool
      | .excess _ => true
      | .surplus _ => true
      | _ => false
    finish o (if bad.all harmless then 0 else 1)
      (bad.map (fun m => grumble o (misfitText m)) ++ [.out (.ofBytes bytes)])

/-! ### Whole files -/

/-- How lines are shown. -/
structure LineStyle where
  numbers : Bool
  /-- Only lines that are not empty get a number. -/
  numbersFull : Bool
  ends : Bool
  tabs : Bool
  hidden : Bool
  squeezes : Bool

/-- An octet made visible. -/
def visible (b : UInt8) : Bytes :=
  let low (b : UInt8) : Bytes :=
    if b < 32 then [94, b + 64] else if b = 127 then [94, 63] else [b]
  if b < 128 then low b else [77, 45] ++ low (b - 128)

/-- The octets of a line as they are shown, newlines apart. -/
def LineStyle.body (style : LineStyle) (line : Bytes) : Bytes :=
  line.flatMap fun b =>
    if b = 9 then if style.tabs then [94, 73] else [9]
    else if style.hidden then visible b
    else [b]

/-- Lines as they are shown.  `n` is the number of the last line so far, and `wasEmpty` says
whether the line before was empty. -/
def LineStyle.lines (style : LineStyle) (n : Nat) (wasEmpty : Bool) : List Bytes → Bytes
  | [] => []
  | line :: rest =>
    let isWhole := line.getLast? = some Bytes.newline
    let bare := if isWhole then line.dropLast else line
    if style.squeezes && wasEmpty && bare.isEmpty then style.lines n true rest
    else
      let numbered := if style.numbersFull then !bare.isEmpty else style.numbers
      let n := if numbered then n + 1 else n
      let label := if numbered then Bytes.ofRaw (padLeft 6 (toString n) ++ "\t") else []
      let ending := if isWhole then (if style.ends then [36] else []) ++ [Bytes.newline] else []
      label ++ style.body bare ++ ending ++ style.lines n bare.isEmpty rest

/-- Copy files to the output. -/
def cat (o : Occasion) : Effect :=
  withFlags o 1 "AbeEnstTuv"
    [("show-all", 'A'), ("number-nonblank", 'b'), ("show-ends", 'E'), ("number", 'n'),
     ("squeeze-blank", 's'), ("show-tabs", 'T'), ("show-nonprinting", 'v')]
  fun flags =>
    let any (cs : List Char) : Bool := cs.any flags.has
    let style : LineStyle :=
      { numbers := flags.has 'n', numbersFull := flags.has 'b', ends := any ['A', 'e', 'E']
        tabs := any ['A', 't', 'T'], hidden := any ['A', 'e', 't', 'v'], squeezes := flags.has 's' }
    let paths := sources flags.operands
    let read := paths.map fun path =>
      match openFile o path with
      | .error e => .error (fileFault path e)
      | .ok flow =>
        if isOwnOutput o path && flow ≠ .empty then .error s!"{path}: input file is output file"
        else .ok flow
    let pieces :=
      if any ['A', 'b', 'e', 'E', 'n', 's', 't', 'T', 'v'] then
        let bytes := (read.filterMap Except.toOption).flatMap Flow.toBytes
        let notes := read.filterMap fun
          | .ok _ => none
          | .error text => some (grumble o text)
        notes ++ [.out (.ofBytes (style.lines 0 false (Flow.lines bytes)))]
      else read.map fun
        | .ok flow => .out flow
        | .error text => grumble o text
    let isClosed := paths.contains "-" && o.input matches .error (.os 9)
    let last :=
      if isClosed then [grumble o s!"closing standard input: {errorText (.os 9)}"] else []
    { finish o (if read.all (·.isOk) then 0 else 1) (pieces ++ last) with
      rest := remaining o paths }

/-- Copy the input to files and to the output. -/
def tee (o : Occasion) : Effect :=
  withFlags o 1 "aip" [("append", 'a'), ("ignore-interrupts", 'i')] fun flags =>
    let flow := inputFlow o
    let e := change o flags.operands fun files path =>
      match openTarget o files path with
      | .error e => .error (fileFault path e)
      | .ok .out => .ok (files, [.out flow])
      | .ok .err => .ok (files, [.err flow.toBytes])
      | .ok .void => .ok (files, [])
      | .ok .full => .error (fileFault path (.os 28))
      | .ok (.file found) => .ok (store o files found (flags.has 'a') flow.toBytes, [])
    { e with pieces := .out flow :: e.pieces, rest := ⟨.empty, none⟩ }

/-- Reverse the octets of each line. -/
def rev (o : Occasion) : Effect := filter o o.args (mapLines List.reverse)

/-- Octets cut behind every place where a text stands.  With `isBefore` they are cut in front of
it.  Fuel is more than the number of octets. -/
def recordsOf (mark : Bytes) (isBefore : Bool) (fuel : Nat) (current bytes : Bytes) : List Bytes :=
  match fuel, bytes with
  | 0, _ => [current.reverse]
  | _, [] => if current.isEmpty then [] else [current.reverse]
  | fuel + 1, b :: rest =>
    if !mark.isEmpty && mark.isPrefixOf bytes then
      let rest := bytes.drop mark.length
      if isBefore then
        let others := recordsOf mark isBefore fuel mark.reverse rest
        if current.isEmpty then others else current.reverse :: others
      else (current.reverse ++ mark) :: recordsOf mark isBefore fuel [] rest
    else recordsOf mark isBefore fuel (b :: current) rest

/-- Reverse the order of lines, or of records with another end. -/
def tac (o : Occasion) : Effect :=
  withFlags o 1 "bs:r" [("before", 'b'), ("separator", 's')] fun flags =>
    let paths := sources flags.operands
    let g := gather o paths
    let mark := match flags.value? 's' with
      | some "" => [0]
      | some text => Bytes.ofRaw text
      | none => [Bytes.newline]
    { finish o (if g.complaints.isEmpty then 0 else 1)
        (g.complaints ++ g.read.map fun (_, flow) =>
          let bytes := flow.toBytes
          .out (.ofBytes
            (recordsOf mark (flags.has 'b') (bytes.length + 1) [] bytes).reverse.flatten)) with
      rest := remaining o paths }

/-- Write a line for ever. -/
def yes (o : Occasion) : Effect :=
  write o ⟨[], Bytes.ofRaw ((if o.args.isEmpty then "y" else joined o.args) ++ "\n")⟩

/-! ### Parts of files -/

/-- How much of a file is wanted. -/
structure Portion where
  octets : Bool
  /-- The sign before the count. -/
  sign : Option Char
  count : Nat

/-- A count with an optional sign. -/
def readCount (s : String) : Option (Option Char × Nat) :=
  match s.toList with
  | '+' :: cs => (readSize (String.ofList cs)).map (some '+', ·)
  | '-' :: cs => (readSize (String.ofList cs)).map (some '-', ·)
  | _ => (readSize s).map (none, ·)

/-- Arguments with an old form of a count at their front in its new form. -/
def renewCount (signs : List Char) : List String → List String
  | arg :: rest =>
    match arg.toList with
    | sign :: c :: cs =>
      if signs.contains sign && c.isDigit && cs.all Char.isDigit then
        let text := String.ofList (c :: cs)
        (if sign = '+' then s!"-n+{text}" else s!"-n{text}") :: rest
      else arg :: rest
    | _ => arg :: rest
  | [] => []

/-- The portion that the options of a program ask for. -/
def readPortion (flags : Flags) : Except String Portion :=
  match flags.last? ['n', 'c'] with
  | none => .ok ⟨false, none, 10⟩
  | some c =>
    let text := (flags.value? c).getD ""
    match readCount text with
    | some (sign, count) => .ok ⟨c == 'c', sign, count⟩
    | none =>
      let what := if c = 'c' then "bytes" else "lines"
      .error s!"invalid number of {what}: {quoted text}"

/-- The words of options that ask for a portion. -/
def portionWords : List (String × Char) :=
  [("lines", 'n'), ("bytes", 'c'), ("quiet", 'q'), ("silent", 'q'), ("verbose", 'v')]

/-- A program that writes a portion of each file, with a headline if there are several. -/
def portions (o : Occasion) (flags : Flags) (cut : Flow → Flow) (rest : Remainder) : Effect :=
  let paths := sources flags.operands
  let headed := (1 < paths.length && flags.last? ['q', 'v'] != some 'q') ||
    flags.last? ['q', 'v'] == some 'v'
  let name (path : String) : String := if path = "-" then "standard input" else path
  let step (acc : List Piece × Bool × Bool) (path : String) : List Piece × Bool × Bool :=
    let (pieces, isFirst, bad) := acc
    let headline := (if isFirst then "" else "\n") ++ s!"==> {name path} <==\n"
    let head : List Piece := if headed then [.out (.ofRaw headline)] else []
    match openFile o path with
    | .ok flow => (pieces ++ head ++ [.out (cut flow)], false, bad)
    | .error e =>
      if e = .os 21 then
        (pieces ++ head ++ [grumble o s!"error reading {shellQuoted (name path)}: {errorText e}"],
          false, true)
      else
        (pieces ++
          [grumble o s!"cannot open {shellQuoted (name path)} for reading: {errorText e}"],
          isFirst, true)
  let (pieces, _, bad) := paths.foldl step ([], true, false)
  { finish o (if bad then 1 else 0) pieces with
    rest := if paths.any (isInput o) then rest else untouched o }

/-- The first part of a flow. -/
def Portion.front (p : Portion) (flow : Flow) : Bytes :=
  match p.octets, p.sign with
  | true, some '-' => flow.toBytes.take (flow.toBytes.length - p.count)
  | true, _ => flow.take p.count
  | false, some '-' =>
    let ls := Flow.lines flow.toBytes
    (ls.take (ls.length - p.count)).flatten
  | false, _ => (flow.takeLines p.count).1

/-- Write the first part of files. -/
def head (o : Occasion) : Effect :=
  withFlags { o with args := renewCount ['-'] o.args } 1 "n:c:qv" portionWords fun flags =>
    match readPortion flags with
    | .error message => complain o 1 message
    | .ok p =>
      let front := p.front (inputFlow o)
      let isFull := if p.octets then p.count ≤ front.length else
        p.count ≤ (front.filter (· = Bytes.newline)).length
      let rest : Remainder :=
        if p.sign = some '-' then ⟨.empty, none⟩
        else if isFull then leftover o 8192 front.length
        else { leftover o 8192 front.length with needed := none }
      portions o flags (fun flow => .ofBytes (p.front flow)) rest

/-- The last part of some octets. -/
def Portion.back (p : Portion) (bytes : Bytes) : Bytes :=
  match p.octets, p.sign with
  | true, some '+' => bytes.drop (p.count - 1)
  | true, _ => bytes.drop (bytes.length - p.count)
  | false, some '+' => ((Flow.lines bytes).drop (p.count - 1)).flatten
  | false, _ =>
    let ls := Flow.lines bytes
    (ls.drop (ls.length - p.count)).flatten

/-- Write the last part of files. -/
def tail (o : Occasion) : Effect :=
  withFlags { o with args := renewCount ['-', '+'] o.args } 1 "n:c:qvfF"
      (portionWords ++ [("follow", 'f')]) fun flags =>
    match readPortion flags with
    | .error message => complain o 1 message
    | .ok p =>
      let e := portions o flags (fun flow => .ofBytes (p.back flow.toBytes)) ⟨.empty, none⟩
      let follows := flags.has 'f' || flags.has 'F'
      if follows && !flags.operands.isEmpty then { e with micros := forever } else e

/-! ### Columns -/

/-- The numbers that a list such as `1,3-5,7-` holds, as bounds. -/
def readRanges (s : String) : Option (List (Nat × Option Nat)) :=
  ((s.toList.splitOnP fun c => c = ',' || c = ' ').map fun part =>
    let digits (cs : List Char) : Option Nat := readNat (String.ofList cs)
    match part.splitOn '-' with
    | [a] => (digits a).bind fun a => if a = 0 then none else some (a, some a)
    | [[], []] => none
    | [[], b] => (digits b).bind fun b => if b = 0 then none else some (1, some b)
    | [a, []] => (digits a).bind fun a => if a = 0 then none else some (a, none)
    | [a, b] =>
      (digits a).bind fun a => (digits b).bind fun b =>
        if a = 0 || b < a then none else some (a, some b)
    | _ => none).mapM id

/-- Whether a number, counted from one, is in a list. -/
def inRanges (ranges : List (Nat × Option Nat)) (n : Nat) : Bool :=
  ranges.any fun (a, b) => a ≤ n && (b.all fun b => n ≤ b)

/-- The members of a list at wanted places. -/
def pick {α : Type} (wanted : Nat → Bool) (xs : List α) : List α :=
  (xs.zip (List.range xs.length)).filterMap fun (x, i) => if wanted (i + 1) then some x else none

/-- Octets at wanted places; `glue` comes between runs of them. -/
def pickOctets (wanted : Nat → Bool) (glue : Bytes) (line : Bytes) : Bytes :=
  let marked := (line.zip (List.range line.length)).map fun (b, i) => (b, wanted (i + 1))
  let runs := (marked.splitOnP fun (_, keep) => !keep).filter (!·.isEmpty)
  glue.intercalate (runs.map fun run => run.map (·.1))

/-- Cut columns out of lines. -/
def cut (o : Occasion) : Effect :=
  withFlags o 1 "b:c:f:d:nszCO:"
    [("bytes", 'b'), ("characters", 'c'), ("fields", 'f'), ("delimiter", 'd'),
     ("only-delimited", 's'), ("complement", 'C'), ("output-delimiter", 'O')]
  fun flags =>
    let lists := flags.options.filter fun (c, _) => ['b', 'c', 'f'].contains c
    let delimiter := (flags.value? 'd').getD "\t"
    match lists with
    | [] => misuse o 1 "you must specify a list of bytes, characters, or fields"
    | _ :: _ :: _ => misuse o 1 "only one list may be specified"
    | [(kind, text)] =>
      if kind ≠ 'f' && flags.has 'd' then
        misuse o 1 "an input delimiter may be specified only when operating on fields"
      else if kind ≠ 'f' && flags.has 's' then
        misuse o 1 "suppressing non-delimited lines makes sense\n\tonly when operating on fields"
      else if 1 < delimiter.length then misuse o 1 "the delimiter must be a single character"
      else
        match readRanges text with
        | none =>
          let (one, all, value) := if kind = 'f' then ("field", "fields", "value")
            else ("byte/character", "byte/character positions", "position")
          if (text.toList.splitOn ',').contains ['0'] then
            misuse o 1 s!"{all} are numbered from 1"
          else if (text.toList.splitOn ',').contains ['-'] then
            misuse o 1 "invalid range with no endpoint: -"
          else if text.toList.all fun c => c.isDigit || c = '-' || c = ',' then
            misuse o 1 "invalid decreasing range"
          else
            misuse o 1 s!"invalid {one} {value} {quoted text}"
        | some ranges =>
          let wanted (n : Nat) : Bool := inRanges ranges n != flags.has 'C'
          let glue? := (flags.value? 'O').map Bytes.ofRaw
          lineFilter o flags.operands fun ls =>
            if kind ≠ 'f' then ls.map (pickOctets wanted (glue?.getD []))
            else
              let mark := ((Bytes.ofRaw delimiter).head?).getD 0
              ls.filterMap fun line =>
                if line.contains mark then
                  some ((glue?.getD [mark]).intercalate (pick wanted (line.splitOn mark)))
                else if flags.has 's' then none
                else some line

/-- The delimiters that a list gives, in turn. -/
def pasteMarks (s : String) : List Bytes :=
  let rec go : List Char → List Bytes
    | '\\' :: '0' :: cs => [] :: go cs
    | '\\' :: c :: cs =>
      (match Format.letterEscape? c with | some b => [b] | none => Format.octets c) :: go cs
    | c :: cs => Format.octets c :: go cs
    | [] => []
  match go s.toList with
  | [] => [[]]
  | marks => marks

/-- Texts with delimiters between them, in turn. -/
def pasteLine (marks : List Bytes) (fields : List Bytes) : Bytes :=
  match fields with
  | [] => []
  | first :: rest =>
    first ++ ((rest.zip (List.range rest.length)).flatMap fun (field, i) =>
      (marks[i % marks.length]?).getD [] ++ field)

/-- Join the lines of files side by side. -/
def paste (o : Occasion) : Effect :=
  withFlags o 1 "d:sz" [("delimiters", 'd'), ("serial", 's')] fun flags =>
    let paths := sources flags.operands
    let g := gather o paths
    let marks := pasteMarks ((flags.value? 'd').getD "\t")
    if !g.complaints.isEmpty && !flags.has 's' then finish o 1 (g.complaints.take 1)
    else
      let columns := g.read.map fun (path, flow) => (path, bareLines flow)
      let inputs := (columns.filter (·.1 = "-")).length
      -- Several mentions of the input take its lines in turn.
      let height := (columns.map fun (path, ls) =>
        if path = "-" then (ls.length + inputs - 1) / inputs else ls.length).foldl max 0
      let cell (row : Nat) (index : Nat) (path : String) (ls : List Bytes) : Bytes :=
        let before := ((columns.take index).filter (·.1 = "-")).length
        let place := if path = "-" then row * inputs + before else row
        (ls[place]?).getD []
      let rows :=
        if flags.has 's' then columns.map fun (_, ls) => pasteLine marks ls
        else (List.range height).map fun row =>
          pasteLine marks ((columns.zip (List.range columns.length)).map
            fun ((path, ls), index) => cell row index path ls)
      let status := if g.complaints.isEmpty then 0 else 1
      { finish o status (g.complaints ++ [.out (ofLines rows)]) with rest := remaining o paths }

/-- The column after an octet. -/
def columnAfter (column : Nat) (b : UInt8) : Nat :=
  if b = 9 then column / 8 * 8 + 8
  else if b = 8 then column - 1
  else if b = 13 then 0
  else column + 1

/-- Break a line into pieces no wider than so many columns; with `atBlanks` after a blank where
there is one.  `current` is in reverse. -/
def foldLine (width : Nat) (atBlanks isOctets : Bool) (current : Bytes) (column : Nat) :
    Bytes → List Bytes
  | [] => if current.isEmpty then [] else [current.reverse]
  | b :: rest =>
    let advance (column : Nat) (b : UInt8) : Nat :=
      if isOctets then column + 1 else columnAfter column b
    let next := advance column b
    if next ≤ width || current.isEmpty then
      foldLine width atBlanks isOctets (b :: current) next rest
    else
      let kept := if atBlanks then current.dropWhile (!isBlankOctet ·) else current
      let kept := if kept.isEmpty then current else kept
      let moved := (current.take (current.length - kept.length)).reverse
      let column := moved.foldl advance 0
      kept.reverse :: foldLine width atBlanks isOctets (b :: moved.reverse) (advance column b) rest

/-- Break long lines. -/
def fold (o : Occasion) : Effect :=
  withFlags o 1 "bsw:" [("bytes", 'b'), ("spaces", 's'), ("width", 'w')] fun flags =>
    let text := (flags.value? 'w').getD "80"
    match readNat text with
    | none => complain o 1 s!"invalid number of columns: {quoted text}"
    | some 0 => complain o 1 s!"invalid number of columns: {quoted text}"
    | some width =>
      filter o flags.operands fun flow =>
        mapLines (fun line =>
          [Bytes.newline].intercalate
            (foldLine width (flags.has 's') (flags.has 'b') [] 0 line)) flow

/-- Put blanks in the place of tabs. -/
def expandTabs (width column : Nat) : Bytes → Bytes
  | [] => []
  | b :: rest =>
    if b = 9 then
      let missing := width - column % width
      List.replicate missing 32 ++ expandTabs width (column + missing) rest
    else b :: expandTabs width (if b = 8 then column - 1 else column + 1) rest

/-- Put blanks in the place of tabs. -/
def expand (o : Occasion) : Effect :=
  withFlags o 1 "t:i" [("tabs", 't')] fun flags =>
    let width := ((flags.value? 't').bind readNat).getD 8
    filter o flags.operands (mapLines (expandTabs (max width 1) 0))

/-- Put tabs in the place of blanks.  `blanks` are those since the last tab stop or other
character, which are written if no tab takes their place; with `first` only blanks in front of
all else count. -/
def unexpandBlanks (width : Nat) (first : Bool) (column : Nat) (blanks : Bytes) : Bytes → Bytes
  | [] => blanks
  | b :: rest =>
    if b = 32 then
      let column := column + 1
      if column % width = 0 then
        (if blanks.isEmpty then [32] else [9]) ++ unexpandBlanks width first column [] rest
      else unexpandBlanks width first column (32 :: blanks) rest
    else if b = 9 then
      9 :: unexpandBlanks width first (column / width * width + width) [] rest
    else if first then blanks ++ b :: rest
    else blanks ++ b :: unexpandBlanks width first (column + 1) [] rest

/-- Put tabs in the place of blanks. -/
def unexpand (o : Occasion) : Effect :=
  withFlags o 1 "at:f" [("all", 'a'), ("tabs", 't'), ("first-only", 'f')] fun flags =>
    let width := ((flags.value? 't').bind readNat).getD 8
    let first := flags.has 'f' || !(flags.has 'a' || flags.has 't')
    filter o flags.operands (mapLines (unexpandBlanks (max width 1) first 0 []))

/-- How lines are numbered. -/
structure Numbering where
  style : String
  format : String
  separator : String
  width : Nat
  step : Int

/-- A number in a column. -/
def Numbering.label (s : Numbering) (n : Int) : String :=
  let text := toString n
  let body := match s.format with
    | "ln" => text ++ "".pushn ' ' (s.width - text.length)
    | "rz" =>
      let digits := toString n.natAbs
      let sign := if n < 0 then "-" else ""
      sign ++ "".pushn '0' (s.width - digits.length - sign.length) ++ digits
    | _ => padLeft s.width text
  body ++ s.separator

/-- Number lines from a number on. -/
def Numbering.lines (s : Numbering) (n : Int) : List Bytes → List Bytes
  | [] => []
  | line :: rest =>
    if s.style = "a" || (s.style = "t" && !line.isEmpty) then
      (Bytes.ofRaw (s.label n) ++ line) :: s.lines (n + s.step) rest
    else
      (List.replicate (s.width + s.separator.length) 32 ++ line) :: s.lines n rest

/-- Number lines. -/
def nl (o : Occasion) : Effect :=
  withFlags o 1 "b:n:s:w:v:i:p"
    [("body-numbering", 'b'), ("number-format", 'n'), ("number-separator", 's'),
     ("number-width", 'w'), ("starting-line-number", 'v'), ("line-increment", 'i')]
  fun flags =>
    let number (c : Char) (other : Int) : Int := ((flags.value? c).bind String.toInt?).getD other
    let style : Numbering :=
      { style := (flags.value? 'b').getD "t", format := (flags.value? 'n').getD "rn"
        separator := (flags.value? 's').getD "\t", width := (number 'w' 6).toNat
        step := number 'i' 1 }
    lineFilter o flags.operands (style.lines (number 'v' 1))

/-! ### Octets -/

/-- The octets from one to another. -/
def octetRange (a b : Nat) : Bytes := (List.range (b + 1 - a)).map fun i => UInt8.ofNat (a + i)

/-- The octets of a named class. -/
def octetClass? : String → Option Bytes
  | "lower" => some (octetRange 97 122)
  | "upper" => some (octetRange 65 90)
  | "digit" => some (octetRange 48 57)
  | "alpha" => some (octetRange 65 90 ++ octetRange 97 122)
  | "alnum" => some (octetRange 48 57 ++ octetRange 65 90 ++ octetRange 97 122)
  | "space" => some (octetRange 9 13 ++ [32])
  | "blank" => some [9, 32]
  | "punct" =>
    some (octetRange 33 47 ++ octetRange 58 64 ++ octetRange 91 96 ++ octetRange 123 126)
  | "cntrl" => some (octetRange 0 31 ++ [127])
  | "print" => some (octetRange 32 126)
  | "graph" => some (octetRange 33 126)
  | "xdigit" => some (octetRange 48 57 ++ octetRange 65 70 ++ octetRange 97 102)
  | _ => none

/-- A set of octets, as an argument gives it. -/
structure OctetSet where
  octets : Bytes
  /-- An octet that is repeated as often as is needed, and how many octets come before it. -/
  filler : Option (Nat × UInt8)

/-- Read a set: escapes, ranges, classes and repetitions.  Fuel is the length of the text. -/
def readSet (fuel : Nat) (cs : List Char) : Except String OctetSet :=
  match fuel, cs with
  | 0, _ => .ok ⟨[], none⟩
  | _, [] => .ok ⟨[], none⟩
  | fuel + 1, cs =>
    let after (set : Bytes) (rest : List Char) : Except String OctetSet :=
      (readSet fuel rest).map fun s =>
        ⟨set ++ s.octets, s.filler.map fun (n, b) => (n + set.length, b)⟩
    let single : List Char → Bytes × List Char
      | '\\' :: rest => Format.readEscape ⟨false, false⟩ rest
      | c :: rest => (Format.octets c, rest)
      | [] => ([], [])
    let plain : Except String OctetSet :=
      let (first, rest) := single cs
      match first.reverse, rest with
      | [a], '-' :: c :: rest =>
        let (last, rest) := single (c :: rest)
        let b := last.headD a
        if b < a then
          let named := Bytes.toRaw [a, 45, b]
          .error s!"range-endpoints of {quoted named} are in reverse collating sequence order"
        else after (octetRange a.toNat b.toNat) rest
      | b :: _ :: _, rest => after [b] rest
      | _, rest => after first rest
    match cs with
    | '[' :: ':' :: rest =>
      let name := rest.takeWhile (· ≠ ':')
      match rest.drop name.length with
      | ':' :: ']' :: rest =>
        match octetClass? (String.ofList name) with
        | some set => after set rest
        | none => .error s!"invalid character class {quoted (String.ofList name)}"
      | _ => plain
    | '[' :: c :: '*' :: rest =>
      let count := rest.takeWhile Char.isDigit
      match rest.drop count.length with
      | ']' :: rest =>
        let n := valueIn (if count.head? = some '0' then 8 else 10) count
        if n = 0 then
          (readSet fuel rest).map fun s => ⟨s.octets, some (0, UInt8.ofNat c.toNat)⟩
        else after (List.replicate n (UInt8.ofNat c.toNat)) rest
      | _ => plain
    | _ => plain

/-- A set with so many octets, if it has one that can be repeated. -/
def OctetSet.filled (s : OctetSet) (size : Nat) : Bytes :=
  match s.filler with
  | some (n, b) =>
    s.octets.take n ++ List.replicate (size - s.octets.length) b ++ s.octets.drop n
  | none => s.octets

/-- Drop octets that repeat the one before them and are in a set. -/
def squeeze (set : Bytes) : Bytes → Bytes
  | a :: b :: rest =>
    if a = b && set.contains a then squeeze set (b :: rest) else a :: squeeze set (b :: rest)
  | bytes => bytes

/-- Replace, delete or squeeze octets. -/
def tr (o : Occasion) : Effect :=
  match Grammar.read ⟨"cCdst".toList,
      [("complement", 'c'), ("delete", 'd'), ("squeeze-repeats", 's'), ("truncate-set1", 't')],
      false⟩ o.args with
  | .error message => misuse o 1 message
  | .ok flags =>
    let wants := if flags.has 'd' == flags.has 's' then 2 else 1
    let most := if flags.has 'd' && !flags.has 's' then 1 else 2
    let apply (f : UInt8 → Bytes) (set : Option Bytes) : Effect :=
      filter o [] fun flow =>
        let flow := flow.flatMap f
        match set with
        | some set => ⟨squeeze set flow.bytes, squeeze set flow.cycle⟩
        | none => flow
    match flags.operands with
    | [] => misuse o 1 "missing operand"
    | first :: others =>
      if others.isEmpty && wants = 2 then
        let why := if flags.has 'd' then
            "Two strings must be given when both deleting and squeezing repeats."
          else "Two strings must be given when translating."
        misuse o 1 s!"missing operand after {quoted first}\n{why}"
      else if most ≤ others.length then
        let extra := (others.drop (most - 1)).headD ""
        let why := if most = 1 && others.length = 1 then
          "\nOnly one string may be given when deleting without squeezing repeats." else ""
        misuse o 1 s!"extra operand {quoted extra}{why}"
      else
        match readSet (first.length + 1) first.toList,
            readSet ((others.headD "").length + 1) (others.headD "").toList with
        | .error message, _ => complain o 1 message
        | _, .error message => complain o 1 message
        | .ok given, .ok second =>
          let given := if flags.has 'c' || flags.has 'C' then
            (octetRange 0 255).filter (!given.octets.contains ·) else given.octets
          let becomes := second.filled given.length
          let delete (b : UInt8) : Bytes := if given.contains b then [] else [b]
          if flags.has 'd' then
            apply delete (if flags.has 's' then some becomes else none)
          else if others.isEmpty then apply ([·]) (some given)
          else if becomes.isEmpty && !flags.has 't' then
            complain o 1 "when not truncating set1, string2 must be non-empty"
          else
            let last := becomes.getLast?.getD 0
            let given := if flags.has 't' then given.take becomes.length else given
            -- Of several mentions of an octet the last one counts.
            let becoming (b : UInt8) : Bytes :=
              match given.reverse.findIdx? (· = b) with
              | none => [b]
              | some i => [(becomes[given.length - 1 - i]?).getD last]
            apply becoming (if flags.has 's' then some becomes else none)

/-! ### Counts -/

/-- What is counted in a text. -/
structure Counts where
  lines : Nat
  words : Nat
  octets : Nat
  /-- The columns of the longest line. -/
  longest : Nat

/-- Count. -/
def countAll (bytes : Bytes) : Counts :=
  let (words, _) := bytes.foldl
    (fun (n, inside) b =>
      if isSpaceOctet b then (n, false) else (if inside then n else n + 1, true))
    ((0 : Nat), false)
  let columns (line : Bytes) : Nat := line.foldl
    (fun c b => if b = 9 then c / 8 * 8 + 8 else if 32 ≤ b && b < 127 then c + 1 else c) 0
  let longest := ((bytes.splitOn Bytes.newline).map columns).foldl max 0
  ⟨bytes.count Bytes.newline, words, bytes.length, longest⟩

/-- Both counts together. -/
def Counts.add (a b : Counts) : Counts :=
  ⟨a.lines + b.lines, a.words + b.words, a.octets + b.octets, max a.longest b.longest⟩

/-- Count lines, words and octets. -/
def wc (o : Occasion) : Effect :=
  withFlags o 1 "lwcmL"
    [("lines", 'l'), ("words", 'w'), ("bytes", 'c'), ("chars", 'm'), ("max-line-length", 'L')]
  fun flags =>
    let chosen := if flags.options.isEmpty then ['l', 'w', 'c'] else
      ['l', 'w', 'm', 'c', 'L'].filter flags.has
    let paths := sources flags.operands
    let read := paths.map fun path => (path, openFile o path)
    let isRegular (path : String) : Bool :=
      if path = "-" then o.isSeekable
      else match o.files.look o.dir path with | .ok node => node.isFile | .error _ => true
    let counts (r : Except IoError Flow) : Counts :=
      match r with | .ok flow => countAll flow.toBytes | .error _ => ⟨0, 0, 0, 0⟩
    let total := read.foldl (fun t (_, r) => t.add (counts r)) ⟨0, 0, 0, 0⟩
    let regular := (read.filter fun (path, _) => isRegular path).foldl
      (fun t (_, r) => t + (counts r).octets) 0
    let width :=
      if paths.length = 1 && chosen.length = 1 then 1
      else max (toString regular).length (if read.all (isRegular ·.1) then 1 else 7)
    let row (c : Counts) (name : String) : String :=
      let cells := chosen.map fun
        | 'l' => c.lines
        | 'w' => c.words
        | 'L' => c.longest
        | _ => c.octets
      joined (cells.map fun n => padLeft width (toString n)) ++ name ++ "\n"
    let shown (path : String) : String := if flags.operands.isEmpty then "" else " " ++ path
    let pieces := read.flatMap fun (path, r) =>
      match r with
      | .ok _ => [Piece.out (.ofRaw (row (counts r) (shown path)))]
      | .error e =>
        grumble o (fileFault path e) ::
          if e = .os 21 then [Piece.out (.ofRaw (row (counts r) (shown path)))] else []
    let last := if 1 < paths.length then [Piece.out (.ofRaw (row total " total"))] else []
    { finish o (if read.all (·.2.isOk) then 0 else 1) (pieces ++ last) with
      rest := remaining o paths }

end Outflow.Utility
