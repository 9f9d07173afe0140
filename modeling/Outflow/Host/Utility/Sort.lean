import Outflow.Host.Amount
import Outflow.Host.Utility.Basic

/-!
# Programs that order and compare lines

Sorting by keys, and what depends on the order of lines.  Lines are octets without their newline.
-/

namespace Outflow.Utility

/-! ### Orders -/

/-- One order after another: the second counts where the first sees no difference. -/
def thenBy (a : Ordering) (b : Unit → Ordering) : Ordering :=
  match a with
  | .eq => b ()
  | a => a

/-- The order of octets. -/
def compareOctets (a b : Bytes) : Ordering :=
  if a = b then .eq else if octetsLe a b then .lt else .gt

/-- A decimal number: a whole number over a power of ten. -/
structure Decimal where
  num : Int
  places : Nat

/-- The order of decimal numbers. -/
def Decimal.compare (a b : Decimal) : Ordering :=
  let x := a.num * Nat.pow 10 b.places
  let y := b.num * Nat.pow 10 a.places
  if x < y then .lt else if y < x then .gt else .eq

/-- The decimal number at the front of some octets, and what follows it. -/
def leadingDecimal (bytes : Bytes) : Decimal × Bytes :=
  let cs := (Bytes.toRaw (bytes.dropWhile isBlankOctet)).toList
  let (negative, cs) := match cs with
    | '-' :: cs => (true, cs)
    | cs => (false, cs)
  let whole := cs.takeWhile Char.isDigit
  let rest := cs.dropWhile Char.isDigit
  let (fraction, rest) := match rest with
    | '.' :: more => (more.takeWhile Char.isDigit, more.dropWhile Char.isDigit)
    | rest => ([], rest)
  let n : Int := valueIn 10 (whole ++ fraction)
  (⟨if negative then -n else n, fraction.length⟩, Bytes.ofRaw (String.ofList rest))

/-- The rank of the unit after a number. -/
def unitRank (bytes : Bytes) : Nat :=
  match bytes with
  | b :: _ => match (['K', 'M', 'G', 'T', 'P', 'E', 'Z', 'Y'].findIdx? fun c =>
      c.toNat = b.toNat || (c = 'K' && b = 107)) with
    | some i => i + 1
    | none => 0
  | [] => 0

/-- The number of the month that some octets begin with; zero for none. -/
def monthRank (bytes : Bytes) : Nat :=
  let text := (Bytes.toRaw ((bytes.dropWhile isBlankOctet).take 3)).toUpper
  match ["JAN", "FEB", "MAR", "APR", "MAY", "JUN", "JUL", "AUG", "SEP", "OCT", "NOV",
      "DEC"].findIdx? (· = text) with
  | some i => i + 1
  | none => 0

/-- The rank and the value of a number of any form: what is no number comes first. -/
def compareAmounts (a b : Bytes) : Ordering :=
  let read (bytes : Bytes) : Option Amount :=
    (Amount.read? (Bytes.toRaw bytes).toList).map (·.1)
  let rank : Option Amount → Nat
    | none => 0
    | some (.notANumber _) => 1
    | some (.infinite true) => 2
    | some (.finite ..) => 3
    | some (.infinite false) => 4
  match read a, read b with
  | some (.finite s n d), some (.finite t m e) =>
    let x : Int := if s then -(n * e : Nat) else (n * e : Nat)
    let y : Int := if t then -(m * d : Nat) else (m * d : Nat)
    compare x y
  | x, y => compare (rank x) (rank y)

/-! ### Versions -/

/-- The weight of an octet in the name of a version: digits count least but for tildes, which
come even before the end, then letters, then all others. -/
def versionWeight : Option UInt8 → Int
  | none => -1
  | some b =>
    let c := Char.ofNat b.toNat
    if c.isDigit then 0 else if c.isAlpha then b.toNat else if c = '~' then -2 else b.toNat + 256

/-- Whether an octet is a digit. -/
def isDigitOctet (b : UInt8) : Bool := 48 ≤ b && b ≤ 57

/-- The order of two names of versions: by parts that are no digits, and by the numbers between
them.  Fuel is more than the octets of both. -/
def compareParts (fuel : Nat) (a b : Bytes) : Ordering :=
  match fuel with
  | 0 => .eq
  | fuel + 1 =>
    let isText (bytes : Bytes) : Bool := bytes.head?.any (!isDigitOctet ·)
    if isText a || isText b then
      thenBy (compare (versionWeight a.head?) (versionWeight b.head?)) fun () =>
        compareParts fuel a.tail b.tail
    else if a.isEmpty && b.isEmpty then .eq
    else
      let digits (bytes : Bytes) : Bytes := (bytes.takeWhile isDigitOctet).dropWhile (· = 48)
      let (x, y) := (digits a, digits b)
      thenBy (compare x.length y.length) fun () =>
        thenBy (compareOctets x y) fun () =>
          compareParts fuel (a.dropWhile isDigitOctet) (b.dropWhile isDigitOctet)

/-- The name of a version without the endings of a file: dots, each with a letter or a tilde and
further letters, digits and tildes behind it. -/
def withoutEndings (fuel : Nat) (bytes : Bytes) : Bytes :=
  match fuel with
  | 0 => bytes
  | fuel + 1 =>
    let letter (b : UInt8) : Bool := (Char.ofNat b.toNat).isAlpha || b = 126
    let ending := (bytes.reverse.takeWhile fun b => letter b || isDigitOctet b).reverse
    let front := bytes.take (bytes.length - ending.length)
    if ending.head?.any letter && front.getLast? = some 46 && 1 < front.length then
      withoutEndings fuel front.dropLast
    else bytes

/-- The order of two names of versions.  Nothing comes first, then dots alone, then names that
begin with a dot. -/
def compareVersions (a b : Bytes) : Ordering :=
  let rank (bytes : Bytes) : Nat :=
    match bytes with
    | [] => 0
    | [46] => 1
    | [46, 46] => 2
    | 46 :: _ => 3
    | _ => 4
  let fuel := a.length + b.length + 1
  thenBy (compare (rank a) (rank b)) fun () =>
    thenBy (compareParts fuel (withoutEndings fuel a) (withoutEndings fuel b)) fun () =>
      compareParts fuel a b

/-! ### Keys -/

/-- A place in a line: a field and an octet of it, counted from one.  Octet zero is the end of
the field. -/
structure KeyPlace where
  field : Nat
  octet : Nat
  skipsBlanks : Bool

/-- What lines are ordered by. -/
structure SortKey where
  start : KeyPlace
  stop : Option KeyPlace
  /-- The letters that say how. -/
  how : List Char

/-- Read a place: numbers and letters. -/
def readPlace (other : Nat) (cs : List Char) : Option (KeyPlace × List Char × List Char) :=
  let field := cs.takeWhile Char.isDigit
  let rest := cs.drop field.length
  let (octet, rest) := match rest with
    | '.' :: more =>
      ((readNat (String.ofList (more.takeWhile Char.isDigit))).getD other,
        more.dropWhile Char.isDigit)
    | rest => (other, rest)
  let letters := rest.takeWhile Char.isAlpha
  (readNat (String.ofList field)).map fun n =>
    (⟨n, octet, letters.contains 'b'⟩, letters, rest.drop letters.length)

/-- Read a key. -/
def readKey (s : String) : Option SortKey :=
  match readPlace 1 s.toList with
  | none => none
  | some (start, how, rest) =>
    if start.field = 0 then none
    else
      match rest with
      | [] => some ⟨start, none, how⟩
      | ',' :: rest =>
        match readPlace 0 rest with
        | some (stop, more, []) => some ⟨start, some stop, how ++ more⟩
        | _ => none
      | _ => none

/-- Octets up to the end of a field, and what follows.  Without a separator the blanks before a
field belong to it. -/
def cutField (separator : Option UInt8) (bytes : Bytes) : Bytes × Bytes :=
  match separator with
  | some mark => (bytes.takeWhile (· ≠ mark), bytes.dropWhile (· ≠ mark))
  | none =>
    let blanks := bytes.takeWhile isBlankOctet
    let rest := bytes.dropWhile isBlankOctet
    (blanks ++ rest.takeWhile (!isBlankOctet ·), rest.dropWhile (!isBlankOctet ·))

/-- How many octets come before a field, counted from zero. -/
def fieldOffset (separator : Option UInt8) (field : Nat) (line : Bytes) : Nat :=
  match field with
  | 0 => 0
  | field + 1 =>
    let (head, rest) := cutField separator line
    let mark := if separator.isSome && !rest.isEmpty then 1 else 0
    head.length + mark + fieldOffset separator field (rest.drop mark)

/-- The octets that a key means. -/
def SortKey.extract (k : SortKey) (separator : Option UInt8) (line : Bytes) : Bytes :=
  let at' (p : KeyPlace) : Nat :=
    let offset := fieldOffset separator (p.field - 1) line
    let blanks :=
      if p.skipsBlanks then ((line.drop offset).takeWhile isBlankOctet).length else 0
    min line.length (offset + blanks + (p.octet - 1))
  let first := at' k.start
  let last := match k.stop with
    | none => line.length
    | some p =>
      if p.octet = 0 then
        let offset := fieldOffset separator (p.field - 1) line
        offset + (cutField separator (line.drop offset)).1.length
      else min line.length (at' p + 1)
  (line.drop first).take (last - first)

/-- The octets of a key that count, with capitals for small letters if case does not. -/
def keyText (how : List Char) (bytes : Bytes) : Bytes :=
  let counts (b : UInt8) : Bool :=
    (!how.contains 'd' || isBlankOctet b || (Char.ofNat b.toNat).isAlphanum) &&
      (!how.contains 'i' || (32 ≤ b && b < 127))
  let bytes := bytes.filter counts
  if how.contains 'f' then bytes.map fun b => if 97 ≤ b && b ≤ 122 then b - 32 else b else bytes

/-- Compare two keys. -/
def compareKeys (how : List Char) (a b : Bytes) : Ordering :=
  let a := if how.contains 'b' then a.dropWhile isBlankOctet else a
  let b := if how.contains 'b' then b.dropWhile isBlankOctet else b
  let order :=
    if how.contains 'n' then (leadingDecimal a).1.compare (leadingDecimal b).1
    else if how.contains 'g' then compareAmounts a b
    else if how.contains 'h' then
      let (x, restX) := leadingDecimal a
      let (y, restY) := leadingDecimal b
      -- The sign comes first, then the unit, then the number.
      let rank (d : Decimal) (rest : Bytes) : Int :=
        if d.num < 0 then -(unitRank rest + 1 : Int)
        else if d.num = 0 then 0 else unitRank rest + 1
      thenBy (compare (rank x restX) (rank y restY)) fun () => x.compare y
    else if how.contains 'V' then compareVersions (keyText how a) (keyText how b)
    else if how.contains 'M' then compare (monthRank a) (monthRank b)
    else compareOctets (keyText how a) (keyText how b)
  if how.contains 'r' then order.swap else order

/-- How lines are sorted. -/
structure SortPlan where
  keys : List SortKey
  separator : Option UInt8
  /-- The letters that count for the whole. -/
  how : List Char
  isStable : Bool

/-- Compare two lines by the keys alone. -/
def SortPlan.compareByKeys (p : SortPlan) (a b : Bytes) : Ordering :=
  match p.keys with
  | [] => compareKeys p.how a b
  | keys => keys.foldl
      (fun order k => thenBy order fun () =>
        let how := if k.how.isEmpty then p.how else k.how.filter (· ≠ 'b')
        compareKeys how (k.extract p.separator a) (k.extract p.separator b))
      .eq

/-- Compare two lines; those with equal keys by all of their octets, unless they are to keep
their order. -/
def SortPlan.compare (p : SortPlan) (a b : Bytes) : Ordering :=
  thenBy (p.compareByKeys a b) fun () =>
    if p.isStable then .eq
    else if p.how.contains 'r' then (compareOctets a b).swap
    else compareOctets a b

/-- The first line of each run of lines that are the same. -/
def firstOfRuns (same : Bytes → Bytes → Bool) : List Bytes → List Bytes
  | a :: b :: rest =>
    if same a b then firstOfRuns same (a :: rest) else a :: firstOfRuns same (b :: rest)
  | ls => ls
  termination_by ls => ls.length

/-- The first line that is out of order, with its number. -/
def firstDisorder (bad : Bytes → Bytes → Bool) (n : Nat) : List Bytes → Option (Nat × Bytes)
  | a :: b :: rest => if bad a b then some (n + 1, b) else firstDisorder bad (n + 1) (b :: rest)
  | _ => none

/-- The words of the options of sorting. -/
def sortWords : List (String × Char) :=
  [("ignore-leading-blanks", 'b'), ("dictionary-order", 'd'), ("ignore-case", 'f'),
   ("general-numeric-sort", 'g'), ("human-numeric-sort", 'h'), ("ignore-nonprinting", 'i'),
   ("month-sort", 'M'), ("numeric-sort", 'n'), ("reverse", 'r'), ("check", 'c'), ("key", 'k'),
   ("merge", 'm'), ("output", 'o'), ("stable", 's'), ("version-sort", 'V'),
   ("field-separator", 't'), ("unique", 'u')]

/-- Sort lines. -/
def sort (o : Occasion) : Effect :=
  withFlags o 2 "bdfghiMnrcCk:mo:sS:t:T:uVz" sortWords fun flags =>
    let keys := (flags.values 'k').map fun text => (text, readKey text)
    let separator := (flags.value? 't').map fun t => if t = "\\0" then "\x00" else t
    match keys.find? (·.2.isNone), separator with
    | some (text, _), _ =>
      match text.toList with
      | '0' :: _ =>
        complain o 2 s!"field number is zero: invalid field specification {quoted text}"
      | _ => complain o 2 s!"invalid number at field start: invalid count at start of {quoted text}"
    | none, some "" => complain o 2 "empty tab"
    | none, separator =>
      if separator.any fun t => 1 < t.length then
        complain o 2 ("multi-character tab " ++ quoted (separator.getD ""))
      else
        let how := flags.options.filterMap fun (c, _) =>
          if ['b', 'd', 'f', 'g', 'h', 'i', 'M', 'n', 'r', 'V'].contains c then some c else none
        let plan : SortPlan :=
          { keys := keys.filterMap (·.2), how
            separator := separator.bind fun t => (Bytes.ofRaw t).head?
            isStable := flags.has 's' || flags.has 'u' }
        let paths := sources flags.operands
        let g := gatherWith o paths fun path e =>
          if e = .os 21 then s!"read failed: {shellWord path}: {errorText e}"
          else s!"cannot read: {shellWord path}: {errorText e}"
        let rest := remaining o paths
        let ls := g.read.flatMap fun (_, flow) => bareLines flow
        if let some piece := g.complaints.head? then { finish o 2 [piece] with rest }
        else if flags.has 'c' || flags.has 'C' then
          let bad (a b : Bytes) : Bool := match plan.compare a b with
            | .gt => true
            | .eq => flags.has 'u'
            | .lt => false
          match firstDisorder bad 1 ls with
          | none => { silent o 0 with rest }
          | some (n, line) =>
            let name := paths.headD "-"
            let text := s!"{name}:{n}: disorder: {Bytes.toRaw line}"
            { finish o 1 (if flags.has 'C' then [] else [grumble o text]) with rest }
        else
          let sorted := ls.mergeSort fun a b => (plan.compare a b).isLE
          let sorted := if flags.has 'u' then
              firstOfRuns (fun a b => plan.compareByKeys a b == .eq) sorted
            else sorted
          let out := ofLines sorted
          match flags.value? 'o' with
          | none => { write o out with rest }
          | some path =>
            match openTarget o o.files path with
            | .ok (.file found) =>
              { silent o 0 with rest, files := store o o.files found false out.bytes }
            | .ok .err => { finish o 0 [.err out.bytes] with rest }
            | .ok .void => { silent o 0 with rest }
            | .ok _ => { write o out with rest }
            | .error e => { complain o 2 s!"open failed: {fileFault path e}" with rest }

/-! ### Runs of equal lines -/

/-- Lines in runs, each with its length.  `part` is what is compared of a line. -/
def runs (part : Bytes → Bytes) : List Bytes → List (List Bytes)
  | [] => []
  | line :: rest =>
    match runs part rest with
    | (next :: run) :: others =>
      if part line = part next then (line :: next :: run) :: others
      else [line] :: (next :: run) :: others
    | others => [line] :: others

/-- Drop so many fields, each with the blanks before it. -/
def dropFields (n : Nat) (line : Bytes) : Bytes :=
  match n with
  | 0 => line
  | n + 1 => dropFields n ((line.dropWhile isBlankOctet).dropWhile (!isBlankOctet ·))

/-- Write one line of each run. -/
def uniq (o : Occasion) : Effect :=
  withFlags o 1 "cdDf:is:uw:z"
    [("count", 'c'), ("repeated", 'd'), ("skip-fields", 'f'), ("ignore-case", 'i'),
     ("skip-chars", 's'), ("unique", 'u'), ("check-chars", 'w')]
  fun flags =>
    let number (c : Char) : Option Nat := (flags.value? c).bind readNat
    let part (line : Bytes) : Bytes :=
      let line := (dropFields ((number 'f').getD 0) line).drop ((number 's').getD 0)
      let line := match number 'w' with | some n => line.take n | none => line
      if flags.has 'i' then keyText ['f'] line else line
    match flags.operands.drop 2 with
    | extra :: _ => misuse o 1 s!"extra operand {quoted extra}"
    | [] =>
      let path := flags.operands.headD "-"
      match openFile o path with
      | .error e =>
        if e = .os 21 then complain o 1 s!"error reading {shellQuoted path}"
        else complain o 1 (fileFault path e)
      | .ok flow =>
        let groups := (runs part (bareLines flow)).filter fun run =>
          (!(flags.has 'd' || flags.has 'D') || 1 < run.length) &&
            (!flags.has 'u' || run.length = 1)
        let shown := groups.flatMap fun run =>
          if flags.has 'D' then run
          else
            let label := if flags.has 'c' then
              Bytes.ofRaw (padLeft 7 (toString run.length) ++ " ") else []
            [label ++ run.headD []]
        let out := ofLines shown
        let rest := remaining o [path]
        match flags.operands[1]? with
        | none => { write o out with rest }
        | some "-" => { write o out with rest }
        | some target =>
          match openTarget o o.files target with
          | .ok (.file found) =>
            { silent o 0 with rest, files := store o o.files found false out.bytes }
          | .ok .void => { silent o 0 with rest }
          | .ok .err => { finish o 0 [.err out.bytes] with rest }
          | .ok _ => { write o out with rest }
          | .error e => complain o 1 (fileFault target e)

/-- Lines that only the first, only the second, or both of two sorted lists have. -/
def mergeColumns (fuel : Nat) (as bs : List Bytes) : List (Nat × Bytes) :=
  match fuel, as, bs with
  | 0, _, _ => []
  | _, [], bs => bs.map (2, ·)
  | _, as, [] => as.map (1, ·)
  | fuel + 1, a :: as, b :: bs =>
    match compareOctets a b with
    | .eq => (3, a) :: mergeColumns fuel as bs
    | .lt => (1, a) :: mergeColumns fuel as (b :: bs)
    | .gt => (2, b) :: mergeColumns fuel (a :: as) bs

/-- Compare two sorted files line by line. -/
def comm (o : Occasion) : Effect :=
  withFlags o 1 "123z" [] fun flags =>
    match flags.operands with
    | [first, second] =>
      match openFile o first, openFile o second with
      | .error e, _ => complain o 1 (fileFault first e)
      | _, .error e => complain o 1 (fileFault second e)
      | .ok a, .ok b =>
        let as := bareLines a
        let bs := bareLines b
        let hides (n : Nat) : Bool := flags.has (Char.ofNat (48 + n))
        let indent (n : Nat) : Bytes :=
          List.replicate (((List.range (n - 1)).filter fun k => !hides (k + 1)).length) 9
        let rows := (mergeColumns (as.length + bs.length + 1) as bs).filter fun (n, _) => !hides n
        { write o (ofLines (rows.map fun (n, line) => indent n ++ line)) with
          rest := remaining o [first, second] }
    | [] => misuse o 1 "missing operand"
    | [first] => misuse o 1 s!"missing operand after {quoted first}"
    | _ :: _ :: extra :: _ => misuse o 1 s!"extra operand {quoted extra}"

end Outflow.Utility
