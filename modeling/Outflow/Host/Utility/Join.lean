import Outflow.Host.Utility.Sort

/-!
# Programs for lines with a common field

Lines of two sorted files that have the same field become one line.  Lines without a counterpart
are left out unless they are asked for.
-/

namespace Outflow.Utility

/-- A part of a line that is written. -/
inductive JoinPart where
  /-- The common field. -/
  | common
  /-- A field of the first or the second file, counted from one. -/
  | field (isSecond : Bool) (n : Nat)

/-- How lines are put together. -/
structure JoinPlan where
  separator : Option UInt8
  /-- The number of the common field in each file. -/
  fields : Nat × Nat
  /-- The parts of a line; none for all fields, the common one first. -/
  parts : Option (List JoinPart)
  /-- What stands for a field that is not there. -/
  empty : Bytes
  ignoresCase : Bool

/-- The fields of a line.  Without a separator they are divided by blanks. -/
def JoinPlan.split (p : JoinPlan) (line : Bytes) : List Bytes :=
  match p.separator with
  | some mark => line.splitOn mark
  | none => (line.splitBy fun a b => isBlankOctet a == isBlankOctet b).filter fun part =>
      !(part.head?.any isBlankOctet)

/-- The common field of a line. -/
def JoinPlan.key (p : JoinPlan) (isSecond : Bool) (line : Bytes) : Bytes :=
  let n := if isSecond then p.fields.2 else p.fields.1
  let key := (p.split line).getD (n - 1) []
  if p.ignoresCase then keyText ['f'] key else key

/-- The line for a pair of lines, of which one may be missing. -/
def JoinPlan.row (p : JoinPlan) (first second : Option Bytes) : Bytes :=
  let a := (first.map p.split).getD []
  let b := (second.map p.split).getD []
  let common := if first.isSome then a.getD (p.fields.1 - 1) [] else b.getD (p.fields.2 - 1) []
  let filled (part : Option Bytes) : Bytes :=
    match part with
    | some part => if part.isEmpty then p.empty else part
    | none => p.empty
  let cells := match p.parts with
    | some parts => parts.map fun
      | .common => filled (some common)
      | .field isSecond n => filled ((if isSecond then b else a)[n - 1]?)
    | none => common :: (a.eraseIdx (p.fields.1 - 1) ++ b.eraseIdx (p.fields.2 - 1))
  [p.separator.getD 32].intercalate cells

/-- What comes of two files. -/
structure Joined where
  rows : List Bytes
  /-- Whether a line had no counterpart. -/
  hasSingles : Bool

/-- Go through the lines of both files, in the order of their common fields.  `shows` says which
of the files have their single lines written, and whether pairs are. -/
def JoinPlan.merge (p : JoinPlan) (shows : Bool × Bool × Bool) (fuel : Nat) (as bs : List Bytes) :
    Joined :=
  match fuel with
  | 0 => ⟨[], false⟩
  | fuel + 1 =>
    let (showsFirst, showsSecond, showsPairs) := shows
    let single (isShown : Bool) (row : Bytes) (rest : Joined) : Joined :=
      ⟨if isShown then row :: rest.rows else rest.rows, true⟩
    match as, bs with
    | [], [] => ⟨[], false⟩
    | a :: as, [] => single showsFirst (p.row (some a) none) (p.merge shows fuel as [])
    | [], b :: bs => single showsSecond (p.row none (some b)) (p.merge shows fuel [] bs)
    | a :: as, b :: bs =>
      match compareOctets (p.key false a) (p.key true b) with
      | .lt => single showsFirst (p.row (some a) none) (p.merge shows fuel as (b :: bs))
      | .gt => single showsSecond (p.row none (some b)) (p.merge shows fuel (a :: as) bs)
      | .eq =>
        let key := p.key false a
        let mine := (a :: as).takeWhile fun line => p.key false line = key
        let theirs := (b :: bs).takeWhile fun line => p.key true line = key
        let rest := p.merge shows fuel ((a :: as).drop mine.length) ((b :: bs).drop theirs.length)
        let pairs := mine.flatMap fun x => theirs.map fun y => p.row (some x) (some y)
        ⟨(if showsPairs then pairs else []) ++ rest.rows, rest.hasSingles⟩

/-- The parts that a text names. -/
def readParts (text : String) : Option (List JoinPart) :=
  let words := (text.toList.splitBy fun a b => (a = ',' || a = ' ') == (b = ',' || b = ' ')).filter
    fun word => !(word.head?.any fun c => c = ',' || c = ' ')
  words.mapM fun
    | ['0'] => some .common
    | '1' :: '.' :: digits => (readNat (String.ofList digits)).map (.field false)
    | '2' :: '.' :: digits => (readNat (String.ofList digits)).map (.field true)
    | _ => none

/-- Put the lines of two files together. -/
def join (o : Occasion) : Effect :=
  withFlags o 1 "a:e:i1:2:j:o:t:v:" [("ignore-case", 'i'), ("header", 'H')] fun flags =>
    let number (letter : Char) : Option String :=
      (flags.value? letter).orElse fun () => flags.value? 'j'
    let bad := [number '1', number '2'].findSome? fun text =>
      text.filter fun text => !((readNat text).any (0 < ·))
    let parts := (flags.value? 'o').bind readParts
    let p : JoinPlan :=
      { separator := (flags.value? 't').bind fun t => (Bytes.ofRaw t).head?
        fields := (((number '1').bind readNat).getD 1, ((number '2').bind readNat).getD 1)
        parts, empty := Bytes.ofRaw ((flags.value? 'e').getD ""), ignoresCase := flags.has 'i' }
    match bad, flags.operands with
    | some text, _ => complain o 1 s!"invalid field number: {quoted text}"
    | none, [first, second] =>
      match openFile o first, openFile o second with
      | .error e, _ => complain o 1 (fileFault first e)
      | _, .error e => complain o 1 (fileFault second e)
      | .ok a, .ok b =>
        let as := bareLines a
        let bs := bareLines b
        let singles := flags.values 'a' ++ flags.values 'v'
        let shows := (singles.contains "1", singles.contains "2", !flags.has 'v')
        let joined := p.merge shows (as.length + bs.length + 1) as bs
        let disorder (isSecond : Bool) (path : String) (ls : List Bytes) : List Piece :=
          let bad (x y : Bytes) : Bool :=
            compareOctets (p.key isSecond x) (p.key isSecond y) == .gt
          match firstDisorder bad 1 ls with
          | some (n, line) =>
            if joined.hasSingles then
              [grumble o s!"{path}:{n}: is not sorted: {Bytes.toRaw line}"]
            else []
          | none => []
        let notes := disorder false first as ++ disorder true second bs
        let ending := if notes.isEmpty then [] else [grumble o "input is not in sorted order"]
        { finish o (if notes.isEmpty then 0 else 1)
            (notes ++ .out (ofLines joined.rows) :: ending) with
          rest := remaining o [first, second] }
    | none, [] => misuse o 1 "missing operand"
    | none, [first] => misuse o 1 s!"missing operand after {quoted first}"
    | none, _ :: _ :: extra :: _ => misuse o 1 s!"extra operand {quoted extra}"

end Outflow.Utility
