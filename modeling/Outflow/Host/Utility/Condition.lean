import Outflow.Host.Format
import Outflow.Host.Utility.Basic
import Outflow.Text.Blank

/-!
# Conditions

What the words of a test mean: files, texts and numbers are looked at by operators, which are
joined by `-a`, `-o`, `!` and parentheses.  A word that could be an operator is taken for an
operand where the number of words says so.
-/

namespace Outflow

/-- Why some words are no condition. -/
inductive ConditionFault where
  /-- A word after which nothing more was expected, and the word that follows it. -/
  | unexpected (word next : String)
  /-- An operator without an operand. -/
  | missing (op : String)
  | openParen
  | noNumber (word : String)
  deriving DecidableEq, Repr

namespace Condition

/-- What a word is to a condition. -/
inductive Role where
  | unary
  | binary
  | not
  | and
  | or
  | open'
  | close
  | operand
  | none
  deriving DecidableEq

/-- The operators of one operand. -/
def unaryOperators : List String :=
  ["-r", "-w", "-x", "-e", "-f", "-d", "-c", "-b", "-p", "-u", "-g", "-k", "-s", "-t", "-z", "-n",
   "-h", "-O", "-G", "-L", "-S"]

/-- The operators of two operands. -/
def binaryOperators : List String :=
  ["=", "!=", "<", ">", "-eq", "-ne", "-ge", "-gt", "-le", "-lt", "-nt", "-ot", "-ef"]

/-- The role of an operator. -/
def operator (word : String) : Role :=
  if unaryOperators.contains word then .unary
  else if binaryOperators.contains word then .binary
  else if word = "!" then .not
  else if word = "-a" then .and
  else if word = "-o" then .or
  else if word = "(" then .open'
  else if word = ")" then .close
  else .operand

/-- The role of the first of some words. -/
def role : List String → Role
  | [] => .none
  | word :: rest =>
    let isOperand : Bool := match rest with
      | [] => true
      | [_] => false
      | next :: _ => operator next == .binary
    match operator word with
    | .unary => if isOperand then .operand else .unary
    | .open' => if rest.isEmpty then .operand else .open'
    | r => r

/-- A whole number with blanks around it. -/
def number (word : String) : Except ConditionFault Int :=
  let cs := word.toList.dropWhile Char.isWhitespace
  let (negative, digits) := match cs with
    | '-' :: cs => (true, cs)
    | '+' :: cs => (false, cs)
    | cs => (false, cs)
  let body := digits.takeWhile Char.isDigit
  let rest := (digits.drop body.length).dropWhile Char.isWhitespace
  let n : Int := valueIn 10 body
  let n := if negative then -n else n
  if body.isEmpty || !rest.isEmpty || n < -(Nat.pow 2 63 : Nat) || (Nat.pow 2 63 : Nat) ≤ n then
    .error (.noNumber word)
  else .ok n

/-- Whether a test of a file holds. -/
def fileTest (o : Occasion) (op path : String) : Bool :=
  let links := op = "-h" || op = "-L"
  match (o.files.follow (!links) o.dir path).toOption.bind o.files.node? with
  | none => false
  | some node =>
    match op with
    | "-f" => node.isFile
    | "-d" => node.isDirectory
    | "-c" => node.isDevice
    | "-s" => match node with
      | .file bytes _ => !bytes.isEmpty
      | .program _ => true
      | .directory _ => true
      | _ => false
    | "-x" => node.isDirectory || node.isFile && node.isExecutable
    | "-h" => match node with | .link _ => true | _ => false
    | "-L" => match node with | .link _ => true | _ => false
    | "-u" => node.mode &&& 0o4000 != 0
    | "-g" => node.mode &&& 0o2000 != 0
    | "-k" => node.mode &&& 0o1000 != 0
    | "-b" => false
    | "-p" => node.isFifo
    | "-S" => false
    | _ => true

/-- Whether a test of one operand holds. -/
def unary (o : Occasion) (op word : String) : Except ConditionFault Bool :=
  match op with
  | "-z" => .ok (word = "")
  | "-n" => .ok (word ≠ "")
  | "-t" => (number word).map fun _ => false
  | op => .ok (fileTest o op word)

/-- Whether a test of two operands holds. -/
def binary (o : Occasion) (op a b : String) : Except ConditionFault Bool :=
  let place (path : String) : Option (List String) := (o.files.resolve o.dir path).toOption
  match op with
  | "=" => .ok (a = b)
  | "!=" => .ok (a ≠ b)
  | "<" => .ok (a ≠ b && Utility.textLe a b)
  | ">" => .ok (a ≠ b && Utility.textLe b a)
  | "-nt" => .ok ((place a).isSome && (place b).isNone)
  | "-ot" => .ok ((place a).isNone && (place b).isSome)
  | "-ef" => .ok ((place a).isSome && place a == place b)
  | op => do
    let a ← number a
    let b ← number b
    match op with
    | "-eq" => return a == b
    | "-ne" => return a != b
    | "-lt" => return a < b
    | "-le" => return a ≤ b
    | "-gt" => return b < a
    | _ => return b ≤ a

/-- A value, and the words from the last one on that was read. -/
abbrev Judged := Except ConditionFault (Bool × List String)

mutual

/-- Conditions joined by `-o`.  The role of the first word may be given from outside. -/
def either (o : Occasion) (fuel : Nat) (r : Role) (ws : List String) : Judged :=
  match fuel with
  | 0 => .ok (false, ws)
  | fuel + 1 => do
    let (a, ws) ← both o fuel r ws
    if role ws.tail = .or then
      let ws := ws.drop 2
      let (b, ws) ← either o fuel (role ws) ws
      return (a || b, ws)
    else return (a, ws)

/-- Conditions joined by `-a`. -/
def both (o : Occasion) (fuel : Nat) (r : Role) (ws : List String) : Judged :=
  match fuel with
  | 0 => .ok (false, ws)
  | fuel + 1 => do
    let (a, ws) ← negated o fuel r ws
    if role ws.tail = .and then
      let ws := ws.drop 2
      let (b, ws) ← both o fuel (role ws) ws
      return (a && b, ws)
    else return (a, ws)

/-- A condition that may be negated. -/
def negated (o : Occasion) (fuel : Nat) (r : Role) (ws : List String) : Judged :=
  match fuel with
  | 0 => .ok (false, ws)
  | fuel + 1 =>
    if r ≠ .not then primary o fuel r ws
    else
      let next := role ws.tail
      (negated o fuel next (if next = .none then ws else ws.tail)).map fun (a, ws) => (!a, ws)

/-- A test, or a condition in parentheses. -/
def primary (o : Occasion) (fuel : Nat) (r : Role) (ws : List String) : Judged :=
  match fuel with
  | 0 => .ok (false, ws)
  | fuel + 1 =>
    match r, ws with
    | .none, _ => .ok (false, ws)
    | _, [] => .ok (false, ws)
    | .open', _ :: rest =>
      if role rest = .close then .ok (false, rest)
      else do
        let (a, ws) ← either o fuel (role rest) rest
        if role ws.tail = .close then return (a, ws.tail) else .error .openParen
    | .unary, op :: rest =>
      match rest with
      | [] => .error (.missing op)
      | word :: _ => (unary o op word).map fun a => (a, rest)
    | _, word :: rest =>
      match rest with
      | op :: more =>
        if role rest = .binary then
          match more with
          | [] => .error (.missing op)
          | other :: _ => (binary o op word other).map fun a => (a, more)
        else .ok (word ≠ "", ws)
      | [] => .ok (word ≠ "", ws)

end

/-- The value of a condition.  Fuel bounds the negations in front. -/
def valueWith (o : Occasion) (fuel : Nat) (words : List String) : Except ConditionFault Bool :=
  match fuel with
  | 0 => .ok false
  | fuel + 1 =>
    let run (r : Role) (ws : List String) : Except ConditionFault Bool := do
      match ← either o (4 * ws.length + 8) r ws with
      | (_, word :: next :: _) => .error (.unexpected word next)
      | (a, _) => return a
    let isShort := words.length = 3 || words.length = 4
    match words with
    | [] => .ok false
    | [_, op, _] =>
      if operator op = .binary then run .operand words
      else if words.head? = some "(" && words.getLast? = some ")" then
        run (role [op]) [op]
      else if words.head? = some "!" then (valueWith o fuel words.tail).map (!·)
      else run (role words) words
    | first :: rest =>
      if isShort && first = "(" && rest.getLast? = some ")" then
        run (role rest.dropLast) rest.dropLast
      else if isShort && first = "!" then (valueWith o fuel rest).map (!·)
      else run (role words) words

/-- The value of a condition. -/
def value (o : Occasion) (words : List String) : Except ConditionFault Bool :=
  valueWith o (words.length + 1) words

end Condition

end Outflow
