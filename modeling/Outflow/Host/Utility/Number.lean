import Outflow.Host.Format
import Outflow.Host.Utility.Basic
import Outflow.Regex.Reader

/-!
# Programs that count and calculate

Rows of numbers, expressions, factors, and spans of time.
-/

namespace Outflow.Utility

/-! ### Rows of numbers -/

/-- A number with so many decimal places. -/
structure PlacedNumber where
  /-- The number times a power of ten. -/
  scaled : Int
  places : Nat

/-- Read a decimal number; nothing if the text is more or less than one. -/
def readPlaced (s : String) : Option PlacedNumber :=
  let cs := s.toList
  let (negative, cs) := match cs with
    | '-' :: cs => (true, cs)
    | '+' :: cs => (false, cs)
    | cs => (false, cs)
  let whole := cs.takeWhile Char.isDigit
  let rest := cs.drop whole.length
  let (fraction, rest) := match rest with
    | '.' :: rest => (rest.takeWhile Char.isDigit, rest.dropWhile Char.isDigit)
    | rest => ([], rest)
  let exponent? : Option Int := match rest with
    | [] => some 0
    | 'e' :: rest =>
      match Amount.readExponent rest with
      | some (e, []) => some e
      | _ => none
    | 'E' :: rest =>
      match Amount.readExponent rest with
      | some (e, []) => some e
      | _ => none
    | _ => none
  if whole.isEmpty && fraction.isEmpty then none
  else
    exponent?.map fun e =>
      let n : Int := valueIn 10 (whole ++ fraction)
      let n := if negative then -n else n
      let places : Int := fraction.length - e
      if places < 0 then ⟨n * Nat.pow 10 (-places).toNat, 0⟩ else ⟨n, places.toNat⟩

/-- The number times another power of ten. -/
def PlacedNumber.scale (n : PlacedNumber) (places : Nat) : Int :=
  n.scaled * Nat.pow 10 (places - n.places)

/-- The text of a number that was scaled. -/
def placedText (places : Nat) (n : Int) : String :=
  let body := String.ofList (Amount.withPoint places n.natAbs)
  if n < 0 then "-" ++ body else body

/-- Options in front of the operands; an operand may be a number below zero. -/
def splitNumbers (args : List String) : List String × List String :=
  let isNumber (arg : String) : Bool :=
    match arg.toList with
    | '-' :: c :: _ => c = '.' || c.isDigit
    | _ => false
  match args.findIdx? isNumber with
  | some n => (args.take n, args.drop n)
  | none => (args, [])

/-- What follows the mark of the first directive of a format.  A doubled mark is none. -/
def directive? : List Char → Option (List Char)
  | [] => none
  | '%' :: '%' :: cs => directive? cs
  | '%' :: cs => some cs
  | _ :: cs => directive? cs

/-- What is wrong with a format for numbers: it has to have one directive, for a number with a
fraction. -/
def numberFormatFault? (format : String) : Option String :=
  let name := quoted format
  match directive? format.toList with
  | none => some s!"format {name} has no % directive"
  | some cs =>
    let cs := cs.dropWhile (['-', '0', '+', ' ', '#', '\''].contains ·)
    let cs := cs.dropWhile Char.isDigit
    let cs := if cs.head? = some '.' then (cs.drop 1).dropWhile Char.isDigit else cs
    match (if cs.head? = some 'L' then cs.drop 1 else cs) with
    | [] => some s!"format {name} ends in %"
    | c :: cs =>
      if !(['a', 'A', 'e', 'E', 'f', 'F', 'g', 'G'].contains c) then
        let letter := String.singleton c
        some s!"format {name} has unknown %{letter} directive"
      else if (directive? cs).isSome then some s!"format {name} has too many % directives"
      else none

/-- Write numbers from a first to a last. -/
def seq (o : Occasion) : Effect :=
  let (front, numbers) := splitNumbers o.args
  match Grammar.read ⟨"f:s:w".toList, [("format", 'f'), ("separator", 's'), ("equal-width", 'w')],
      false⟩ front with
  | .error message => misuse o 1 message
  | .ok flags =>
    let operands := flags.operands ++ numbers
    let isUnread (arg : String) : Bool := (readPlaced arg).isNone
    let fault? := (flags.value? 'f').bind numberFormatFault?
    if operands.isEmpty then misuse o 1 "missing operand"
    else if 3 < operands.length then misuse o 1 ("extra operand " ++ quoted (operands.getD 3 ""))
    else if let some fault := fault? then finish o 1 [grumble o fault]
    else if flags.has 'f' && flags.has 'w' then
      misuse o 1 "format string may not be specified when printing equal width strings"
    else match operands.find? isUnread with
    | some arg => misuse o 1 s!"invalid floating point argument: {quoted arg}"
    | none =>
      let row (first step last : PlacedNumber) : Effect :=
        let places := max first.places step.places
        let all := max places last.places
        let (a, d, z) := (first.scale all, step.scale all, last.scale all)
        if d = 0 then misuse o 1 ("invalid Zero increment value: " ++ quoted (operands.getD 1 "0"))
        else
          let count := if 0 < d then if z < a then 0 else (z - a) / d + 1
            else if a < z then 0 else (a - z) / (-d) + 1
          -- The numbers themselves have no more places than the first and the step.
          let (b, c) := (first.scale places, step.scale places)
          let value (i : Nat) : Int := b + c * (i : Int)
          let texts := (List.range count.toNat).map fun i => placedText places (value i)
          let width := max (placedText places b).length
            (placedText places (z / (Nat.pow 10 (all - places) : Nat))).length
          let shown := match flags.value? 'f' with
            | some format =>
              let format := format.replace "\\" "\\\\"
              texts.map fun t => Bytes.toRaw (Format.output ⟨.extended, true⟩ format [t]).1
            | none =>
              if flags.has 'w' then
                texts.map fun t =>
                  let missing := "".pushn '0' (width - t.length)
                  match t.toList with
                  | '-' :: cs => "-" ++ missing ++ String.ofList cs
                  | _ => missing ++ t
              else texts
          let glue := (flags.value? 's').getD "\n"
          if shown.isEmpty then silent o 0 else print o (glue.intercalate shown ++ "\n")
      let one : PlacedNumber := ⟨1, 0⟩
      match operands.filterMap readPlaced with
      | [first, last] => row first one last
      | [first, step, last] => row first step last
      | numbers => row one one (numbers.headD one)

/-! ### Factors -/

/-- The prime factors of a number in order; `d` is the least one that is still possible. -/
def factorsFrom (fuel d n : Nat) : List Nat :=
  match fuel with
  | 0 => if n ≤ 1 then [] else [n]
  | fuel + 1 =>
    if n ≤ 1 then []
    else if n < d * d then [n]
    else if n % d = 0 then d :: factorsFrom fuel d (n / d)
    else factorsFrom fuel (if d = 2 then 3 else d + 2) n

/-- Write the factors of numbers. -/
def factor (o : Occasion) : Effect :=
  let words := if o.args.isEmpty then
      ((Bytes.toRaw (inputFlow o).toBytes).splitToList Char.isWhitespace).filter (· ≠ "")
    else o.args
  let one (word : String) : Piece × Bool :=
    match readNat word with
    | some n =>
      let all := (factorsFrom 2000000 2 n).map fun p => s!" {p}"
      (.out (.ofRaw (s!"{n}:" ++ String.join all ++ "\n")), true)
    | none => (grumble o s!"{quoted word} is not a valid positive integer", false)
  let done := words.map one
  finish o (if done.all (·.2) then 0 else 1) (done.map (·.1))

/-! ### Expressions -/

/-- What is wrong with an expression, with the status that it leads to. -/
structure ExprFault where
  status : Nat
  text : String

/-- The whole number that a text is. -/
def wholeNumber? (s : String) : Option Int :=
  match s.toList with
  | '-' :: cs => (readNat (String.ofList cs)).map fun n => -(n : Int)
  | _ => (readNat s).map Int.ofNat

/-- Whether a value counts as false. -/
def isNull (s : String) : Bool := s = "" || wholeNumber? s == some 0

/-- What an operator of two numbers gives. -/
def calculate (op : String) (a b : Int) : Except ExprFault Int :=
  match op with
  | "+" => .ok (a + b)
  | "-" => .ok (a - b)
  | "*" => .ok (a * b)
  | _ =>
    if b = 0 then .error ⟨2, "division by zero"⟩
    else if op = "/" then .ok (Int.tdiv a b)
    else .ok (Int.tmod a b)

/-- Compare two values: as numbers if both are, else as texts. -/
def compareValues (op a b : String) : Bool :=
  let order := match wholeNumber? a, wholeNumber? b with
    | some x, some y => compare x y
    | _, _ => if a = b then .eq else if textLe a b then .lt else .gt
  match op with
  | "<" => order == .lt
  | "<=" => order != .gt
  | "=" => order == .eq
  | "==" => order == .eq
  | "!=" => order != .eq
  | ">=" => order != .lt
  | _ => order == .gt

/-- Match a text against a basic expression at its start: what the first group took, or else the
length of the match. -/
def matchValue (text pattern : String) : Except ExprFault String :=
  match Regex.ofText ⟨false, false⟩ pattern.toList with
  | .error e => .error ⟨2, e.message⟩
  | .ok r =>
    let bytes := Bytes.ofRaw text
    let hasGroup := (Bytes.ofRaw pattern).length ≠ 0 && occurs ['\\', '('] pattern.toList
    match r.matchAt ⟨none, bytes⟩ with
    | none => .ok (if hasGroup then "" else "0")
    | some m =>
      .ok (if hasGroup then Bytes.toRaw ((m.group? 1).getD [])
        else toString (bytes.length - m.place.rest.length))
where
  /-- Whether some characters stand within others. -/
  occurs (part : List Char) : List Char → Bool
    | [] => part.isEmpty
    | c :: cs => part.isPrefixOf (c :: cs) || occurs part cs

/-- The operators by how tightly they bind, the loosest first. -/
def operators : List (List String) :=
  [["|"], ["&"], ["<", "<=", "=", "==", "!=", ">=", ">"], ["+", "-"], ["*", "/", "%"], [":"]]

/-- What an operator of two values gives. -/
def combine (op a b : String) : Except ExprFault String :=
  if op = "|" then .ok (if isNull a then (if isNull b then "0" else b) else a)
  else if op = "&" then .ok (if isNull a || isNull b then "0" else a)
  else if op = ":" then matchValue a b
  else if ["<", "<=", "=", "==", "!=", ">=", ">"].contains op then
    .ok (if compareValues op a b then "1" else "0")
  else
    match wholeNumber? a, wholeNumber? b with
    | some x, some y => (calculate op x y).map toString
    | _, _ => .error ⟨2, "non-integer argument"⟩

mutual

/-- The value of an expression whose operators bind at least so tightly, and the words after it. -/
def exprLevel (fuel level : Nat) (before : String) (words : List String) :
    Except ExprFault (String × List String) :=
  match fuel with
  | 0 => .error ⟨2, "syntax error"⟩
  | fuel + 1 =>
    match operators[level]? with
    | none => exprTerm fuel before words
    | some ops => do
      let (a, rest) ← exprLevel fuel (level + 1) before words
      exprRest fuel level ops a rest

/-- Go on with operators of one level. -/
def exprRest (fuel level : Nat) (ops : List String) (a : String) (words : List String) :
    Except ExprFault (String × List String) :=
  match fuel with
  | 0 => .error ⟨2, "syntax error"⟩
  | fuel + 1 =>
    match words with
    | op :: rest =>
      if ops.contains op then do
        let (b, rest) ← exprLevel fuel (level + 1) op rest
        exprRest fuel level ops (← combine op a b) rest
      else .ok (a, words)
    | [] => .ok (a, [])

/-- A value, a function, or an expression in parentheses. -/
def exprTerm (fuel : Nat) (before : String) (words : List String) :
    Except ExprFault (String × List String) :=
  match fuel with
  | 0 => .error ⟨2, "syntax error"⟩
  | fuel + 1 =>
    match words with
    | [] => .error ⟨2, s!"syntax error: missing argument after {quoted before}"⟩
    | "(" :: rest => do
      let (a, rest) ← exprLevel fuel 0 "(" rest
      match rest with
      | ")" :: rest => return (a, rest)
      | [] =>
        let last := words.getLast?.getD ""
        .error ⟨2, s!"syntax error: expecting ')' after {quoted last}"⟩
      | word :: _ => .error ⟨2, s!"syntax error: expecting ')' instead of {quoted word}"⟩
    | ")" :: _ => .error ⟨2, "syntax error: unexpected ')'"⟩
    | "+" :: word :: rest => .ok (word, rest)
    | "length" :: rest => do
      let (a, rest) ← exprTerm fuel "length" rest
      return (toString a.length, rest)
    | "index" :: rest => do
      let (a, rest) ← exprTerm fuel "index" rest
      let (b, rest) ← exprTerm fuel a rest
      let place := (a.toList.findIdx? b.toList.contains).elim 0 (· + 1)
      return (toString place, rest)
    | "match" :: rest => do
      let (a, rest) ← exprTerm fuel "match" rest
      let (b, rest) ← exprTerm fuel a rest
      return (← matchValue a b, rest)
    | "substr" :: rest => do
      let (a, rest) ← exprTerm fuel "substr" rest
      let (b, rest) ← exprTerm fuel a rest
      let (c, rest) ← exprTerm fuel b rest
      match wholeNumber? b, wholeNumber? c with
      | some start, some count =>
        if start ≤ 0 || count ≤ 0 then return ("", rest)
        else return (String.ofList ((a.toList.drop (start.toNat - 1)).take count.toNat), rest)
      | _, _ => return ("", rest)
    | word :: rest => .ok (word, rest)

end

/-- Work out an expression. -/
def expr (o : Occasion) : Effect :=
  let words := if o.args.head? = some "--" then o.args.drop 1 else o.args
  match words with
  | [] => misuse o 2 "missing operand"
  | words =>
    match exprLevel (16 * words.length + 16) 0 "" words with
    | .error e => complain o e.status e.text
    | .ok (_, word :: _) => complain o 2 s!"syntax error: unexpected argument {quoted word}"
    | .ok (value, []) => { print o (value ++ "\n") with status := if isNull value then 1 else 0 }

/-! ### Time -/

/-- The microseconds of a span of seconds, or of another unit that a letter names. -/
def readSpan (s : String) : Option Nat :=
  match Amount.read? s.toList with
  | some (a, rest) =>
    let scale : Option Nat := match rest with
      | [] => some 1
      | ['s'] => some 1
      | ['m'] => some 60
      | ['h'] => some 3600
      | ['d'] => some 86400
      | _ => none
    match a with
    | .finite negative num den =>
      if negative && num ≠ 0 then none
      else scale.map fun scale => (num * scale * 1000000 + den - 1) / den
    | .infinite false => scale.map fun _ => forever
    | _ => none
  | none => none

/-- Let time pass. -/
def sleep (o : Occasion) : Effect :=
  withFlags o 1 "" [] fun flags =>
    if flags.operands.isEmpty then misuse o 1 "missing operand"
    else
      match flags.operands.filter fun arg => (readSpan arg).isNone with
      | [] =>
        { silent o 0 with
          micros := startup + (flags.operands.filterMap readSpan).foldl (· + ·) 0 }
      | bad =>
        let notes := bad.map fun arg => grumble o s!"invalid time interval {quoted arg}"
        finish o 1 (notes ++ [.err (Bytes.ofRaw (hint o ++ "\n"))])

end Outflow.Utility
