import Outflow.Host.Difference
import Outflow.Host.Utility.Basic

/-!
# The program that shows how files differ

Places where two files differ are shown with the lines that go and those that come, alone or
among the lines around them.  Directories are compared name by name.
-/

namespace Outflow.Utility

/-- How differences are shown. -/
inductive DiffStyle where
  | plain
  /-- With lines around them, each line with a mark in front. -/
  | unified (context : Nat)
  /-- With lines around them, the first text before the second. -/
  | context (context : Nat)
  /-- Only whether there are any. -/
  | brief
  deriving DecidableEq

/-- How files are compared. -/
structure Comparison where
  style : DiffStyle
  /-- Whether files that are the same are told. -/
  tellsSame : Bool
  isRecursive : Bool
  /-- Whether a file that is not there counts as empty. -/
  allowsAbsent : Bool
  key : Bytes → Bytes
  labels : List String
  /-- The options as they were given, to be shown in front of the names. -/
  options : List String

/-- A line with something in front; one without a newline is followed by a note. -/
def markedLine (mark : String) (line : Bytes) : Bytes :=
  Bytes.ofRaw mark ++ line ++
    if line.getLast? = some Bytes.newline then []
    else Bytes.ofRaw "\n\\ No newline at end of file\n"

/-- Lines with something in front. -/
def markedLines (mark : String) (lines : List Bytes) : Bytes := lines.flatMap (markedLine mark)

/-- The numbers of some lines after others. -/
def lineRange (before count : Nat) : String :=
  if count = 0 then toString before
  else if count = 1 then toString (before + 1)
  else s!"{before + 1},{before + count}"

/-- A place with nothing around it. -/
def plainHunk (h : Hunk) : Bytes :=
  let letter := if h.removed.isEmpty then "a" else if h.added.isEmpty then "d" else "c"
  let first := lineRange h.before h.removed.length
  let second := lineRange h.placed h.added.length
  Bytes.ofRaw (first ++ letter ++ second ++ "\n") ++ markedLines "< " h.removed ++
    (if h.removed.isEmpty || h.added.isEmpty then [] else Bytes.ofRaw "---\n") ++
    markedLines "> " h.added

/-- Places among the lines around them. -/
structure Window where
  hunks : List Hunk
  /-- The lines of the first text in front of the window, and the lines that it shows of it. -/
  before : Nat
  count : Nat
  /-- The same of the second text. -/
  placed : Nat
  placedCount : Nat

/-- The window for some places. -/
def windowOf (context : Nat) (a b : List Bytes) (hs : List Hunk) : Window :=
  let first := hs.headD ⟨0, 0, [], []⟩
  let last := hs.getLastD first
  let front := min context first.before
  let back := min context (a.length - (last.before + last.removed.length))
  let before := first.before - front
  let placed := first.placed - front
  ⟨hs, before, min (last.before + last.removed.length + back) a.length - before,
    placed, min (last.placed + last.added.length + back) b.length - placed⟩

/-- The range of a window, in a form that has the number of lines. -/
def countedRange (before count : Nat) : String :=
  if count = 1 then toString (before + 1)
  else s!"{before + min count 1},{count}"

/-- A window whose lines have marks. -/
def unifiedWindow (a : List Bytes) (w : Window) : Bytes :=
  let body := w.hunks.foldl
    (fun (shown : Bytes × Nat) h =>
      let kept := (a.drop shown.2).take (h.before - shown.2)
      (shown.1 ++ markedLines " " kept ++ markedLines "-" h.removed ++ markedLines "+" h.added,
        h.before + h.removed.length))
    ([], w.before)
  let rest := (a.drop body.2).take (w.before + w.count - body.2)
  let ranges := s!"@@ -{countedRange w.before w.count} +{countedRange w.placed w.placedCount} @@\n"
  Bytes.ofRaw ranges ++ body.1 ++ markedLines " " rest

/-- One of the two texts of a window; `part` gives the lines of a place that belong to it, and
where they begin. -/
def contextSide (lines : List Bytes) (before count : Nat) (mark : String)
    (part : Hunk → Nat × List Bytes) (w : Window) : Bytes :=
  let body := w.hunks.foldl
    (fun (shown : Bytes × Nat) h =>
      let (start, own) := part h
      let kept := (lines.drop shown.2).take (start - shown.2)
      let changed := !h.removed.isEmpty && !h.added.isEmpty
      (shown.1 ++ markedLines "  " kept ++ markedLines (if changed then "! " else mark) own,
        start + own.length))
    ([], before)
  body.1 ++ markedLines "  " ((lines.drop body.2).take (before + count - body.2))

/-- A window that shows one text after the other. -/
def contextWindow (a b : List Bytes) (w : Window) : Bytes :=
  let range (before count : Nat) : String :=
    if count ≤ 1 then toString (before + count) else s!"{before + 1},{before + count}"
  let first := if w.hunks.all (·.removed.isEmpty) then []
    else contextSide a w.before w.count "- " (fun h => (h.before, h.removed)) w
  let second := if w.hunks.all (·.added.isEmpty) then []
    else contextSide b w.placed w.placedCount "+ " (fun h => (h.placed, h.added)) w
  Bytes.ofRaw s!"***************\n*** {range w.before w.count} ****\n" ++ first ++
    Bytes.ofRaw s!"--- {range w.placed w.placedCount} ----\n" ++ second

/-- The lines that name the two files, with the time of files that have none. -/
def diffHeader (c : Comparison) (first second : String) (a b : String) : Bytes :=
  let label (i : Nat) (path : String) : String :=
    (c.labels[i]?).getD s!"{path}\t1970-01-01 00:00:00.000000000 +0000"
  Bytes.ofRaw s!"{first} {label 0 a}\n{second} {label 1 b}\n"

/-- What is shown for two texts. -/
def Comparison.shown (c : Comparison) (a b : String) (as bs : List Bytes) (hs : List Hunk) :
    Bytes :=
  match c.style with
  | .plain => hs.flatMap plainHunk
  | .unified n =>
    diffHeader c "---" "+++" a b ++
      (Hunk.grouped (2 * n) hs).flatMap fun group => unifiedWindow as (windowOf n as bs group)
  | .context n =>
    diffHeader c "***" "---" a b ++
      (Hunk.grouped (2 * n) hs).flatMap fun group =>
        contextWindow as bs (windowOf n as bs group)
  | .brief => Bytes.ofRaw s!"Files {a} and {b} differ\n"

/-- Compare two texts; the second part of the answer is whether they differ. -/
def Comparison.texts (c : Comparison) (a b : String) (x y : Bytes) : List Piece × Bool :=
  let isBinary (bytes : Bytes) : Bool := bytes.contains 0
  if x = y then
    (if c.tellsSame then [.out (.ofRaw s!"Files {a} and {b} are identical\n")] else [], false)
  else if c.style ≠ .brief && (isBinary x || isBinary y) then
    ([.out (.ofRaw s!"Binary files {a} and {b} differ\n")], true)
  else
    let as := Flow.lines x
    let bs := Flow.lines y
    let hs := Difference.hunks c.key as bs
    if hs.isEmpty then
      (if c.tellsSame then [.out (.ofRaw s!"Files {a} and {b} are identical\n")] else [], false)
    else ([.out (.ofBytes (c.shown a b as bs hs))], true)

/-- What is found at a path that is compared. -/
inductive Compared where
  | text (bytes : Bytes)
  | directory
  | absent
  | fault (e : IoError)

/-- Look at a path. -/
def Comparison.look (c : Comparison) (o : Occasion) (path : String) : Compared :=
  if path ≠ "-" && isDirectory o path then .directory
  else
    match openFile o path with
    | .ok flow => .text flow.toBytes
    | .error e => if c.allowsAbsent && e = .os 2 then .absent else .fault e

/-- Compare what is at two paths.  The answer is what is written, and a status. -/
def Comparison.paths (c : Comparison) (o : Occasion) (fuel : Nat) (isInner : Bool)
    (a b : String) : List Piece × Nat :=
  match fuel with
  | 0 => ([], 2)
  | fuel + 1 =>
    let texts (x y : Bytes) : List Piece × Nat :=
      let (pieces, differs) := c.texts a b x y
      let title := joined ("diff" :: c.options ++ [a, b]) ++ "\n"
      let named := isInner && differs && c.style ≠ .brief && !(x.contains 0 || y.contains 0)
      ((if named then [.out (.ofRaw title)] else []) ++ pieces, if differs then 1 else 0)
    match c.look o a, c.look o b with
    | .fault e, .fault e' =>
      ([grumble o (fileFault a e), grumble o (fileFault b e')], 2)
    | .fault e, _ => ([grumble o (fileFault a e)], 2)
    | _, .fault e => ([grumble o (fileFault b e)], 2)
    | .text x, .text y => texts x y
    | .text x, .absent => texts x []
    | .absent, .text y => texts [] y
    | .directory, .directory =>
      if isInner && !c.isRecursive then
        ([.out (.ofRaw s!"Common subdirectories: {a} and {b}\n")], 0)
      else
        let names (path : String) : List String :=
          match o.files.resolve o.dir path with
          | .ok place => visibleNames o.files place true
          | .error _ => []
        let (mine, theirs) := (names a, names b)
        let all := (mine ++ theirs.filter fun name => !(mine.contains name)).mergeSort textLe
        let results := all.map fun name =>
          if !c.allowsAbsent && !(mine.contains name) then
            ([Piece.out (.ofRaw s!"Only in {b}: {name}\n")], 1)
          else if !c.allowsAbsent && !(theirs.contains name) then
            ([Piece.out (.ofRaw s!"Only in {a}: {name}\n")], 1)
          else c.paths o fuel true (below a name) (below b name)
        (results.flatMap (·.1), results.foldl (fun status r => max status r.2) 0)
    | .directory, .text y =>
      if isInner then
        ([.out (.ofRaw s!"File {a} is a directory while file {b} is a regular file\n")], 1)
      else
        let _ := y
        c.paths o fuel false (below a (lastName b)) b
    | .text x, .directory =>
      if isInner then
        ([.out (.ofRaw s!"File {a} is a regular file while file {b} is a directory\n")], 1)
      else
        let _ := x
        c.paths o fuel false a (below b (lastName a))
    | .absent, .absent =>
      ([grumble o (fileFault a (.os 2)), grumble o (fileFault b (.os 2))], 2)
    | _, _ => ([], 1)

/-- What a line is compared by when some differences are left out. -/
def lineKey (flags : Flags) (line : Bytes) : Bytes :=
  let line := if flags.has 'i' then line.map fun b => if 65 ≤ b && b ≤ 90 then b + 32 else b
    else line
  if flags.has 'w' then line.filter fun b => !(isSpaceOctet b)
  else if flags.has 'b' then
    let squeezed := line.foldl
      (fun (kept : Bytes) b =>
        if isSpaceOctet b then if kept.head? = some 32 then kept else 32 :: kept else b :: kept)
      []
    (squeezed.dropWhile (· = 32)).reverse
  else line

/-- The options in front of the operands, as they were given. -/
def givenOptions (args : List String) : List String :=
  args.takeWhile fun arg => arg.length ≠ 1 && arg.toList.head? = some '-'

/-- Show how files differ. -/
def diff (o : Occasion) : Effect :=
  let misuse (message : String) : Effect :=
    complain o 2 s!"{message}\n{o.name}: {hint o}"
  match Grammar.read ⟨"qsruU:cC:NiwbBaL:tTd".toList,
      [("brief", 'q'), ("report-identical-files", 's'), ("recursive", 'r'), ("unified", 'u'),
        ("context", 'c'), ("new-file", 'N'), ("ignore-case", 'i'), ("ignore-all-space", 'w'),
        ("ignore-space-change", 'b'), ("text", 'a'), ("label", 'L'), ("minimal", 'd'),
        ("normal", 'n')], true⟩ o.args with
  | .error message => misuse message
  | .ok flags =>
    let size (letter : Char) : Nat := ((flags.value? letter).bind readNat).getD 3
    let style := if flags.has 'q' then .brief
      else
        match flags.last? ['u', 'U', 'c', 'C'] with
        | some 'u' => .unified 3
        | some 'U' => .unified (size 'U')
        | some 'c' => .context 3
        | some _ => .context (size 'C')
        | none => .plain
    let c : Comparison :=
      { style, tellsSame := flags.has 's', isRecursive := flags.has 'r'
        allowsAbsent := flags.has 'N', key := lineKey flags, labels := flags.values 'L'
        options := givenOptions o.args }
    match flags.operands with
    | [a, b] =>
      let (pieces, status) := c.paths o 64 false a b
      { finish o status pieces with rest := remaining o [a, b] }
    | [] => misuse s!"missing operand after '{o.name}'"
    | [a] => misuse s!"missing operand after {quoted a}"
    | _ :: _ :: extra :: _ => misuse s!"extra operand {quoted extra}"

end Outflow.Utility
