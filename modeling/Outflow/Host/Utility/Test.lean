import Outflow.Host.Utility.Condition

/-!
# The program that tests conditions

Up to four words have a meaning that their number gives.  More words, and words between
parentheses that go on for longer, are conditions joined by `-a` and `-o`; all of them are looked
at, whatever the first ones say.
-/

namespace Outflow.Utility

/-- Why a program cannot test some words. -/
inductive TestFault where
  /-- More words were expected after the last one. -/
  | tooShort
  | noUnary (word : String)
  | noBinary (word : String)
  | noNumber (word : String)
  /-- What stands where a parenthesis should be closed. -/
  | unclosed (found : Option String)
  | surplus (word : String)
  /-- An operator that compares no lengths. -/
  | noLength (op : String)
  deriving DecidableEq, Repr

namespace Test

/-- A value, and the words that were not read. -/
abbrev Judged := Except TestFault (Bool × List String)

/-- The operators that compare numbers. -/
def numberOperators : List String := ["-eq", "-ne", "-lt", "-le", "-gt", "-ge"]

/-- The operators that compare files. -/
def fileOperators : List String := ["-nt", "-ot", "-ef"]

/-- Whether a word stands between two operands. -/
def isBinary (word : String) : Bool :=
  ["=", "==", "!="].contains word || numberOperators.contains word || fileOperators.contains word

/-- Whether a word is a hyphen and one character. -/
def isSwitch (word : String) : Bool := word.startsWith "-" && word.utf8ByteSize = 2

/-- The characters of the operators with one operand. -/
def switches : List Char := "efdcbpugkstrwxznhLNOGS".toList

/-- A whole number of any size with blanks around it. -/
def number (word : String) : Except TestFault Int :=
  let isSpace (c : Char) : Bool := c.isWhitespace || c = '\x0b' || c = '\x0c'
  let (negative, digits) := match word.toList.dropWhile isSpace with
    | '-' :: cs => (true, cs)
    | '+' :: cs => (false, cs)
    | cs => (false, cs)
  let body := digits.takeWhile Char.isDigit
  if body.isEmpty || !(digits.drop body.length).all isSpace then .error (.noNumber word)
  else
    let n : Int := valueIn 10 body
    .ok (if negative then -n else n)

/-- Test two operands.  `-l` in front of one stands for its length, which only numbers are
compared with. -/
def binary (o : Occasion) (leftIsLength : Bool) : List String → Judged
  | left :: op :: rest => do
    let (rightIsLength, rest) := match rest with
      | "-l" :: right :: more => (true, right :: more)
      | rest => (false, rest)
    let right := rest.headD ""
    let rest := rest.tail
    if numberOperators.contains op then
      let size (word : String) (isLength : Bool) : Except TestFault Int :=
        if isLength then .ok word.utf8ByteSize else number word
      let a ← size left leftIsLength
      let b ← size right rightIsLength
      let holds : Bool := match op with
        | "-eq" => a == b
        | "-ne" => a != b
        | "-lt" => a < b
        | "-le" => a ≤ b
        | "-gt" => b < a
        | _ => b ≤ a
      return (holds, rest)
    else if fileOperators.contains op then
      if leftIsLength || rightIsLength then .error (.noLength op)
      else
        match Condition.binary o op left right with
        | .ok holds => return (holds, rest)
        | .error _ => return (false, rest)
    else
      -- A length mark takes the place of the left text.
      let same := (if rightIsLength then op else left) = right
      return (if op = "!=" then !same else same, rest)
  | _ => .error .tooShort

/-- Test one operand. -/
def unary (o : Occasion) : List String → Judged
  | [] => .error .tooShort
  | op :: rest =>
    if !((op.toList.drop 1).head?.any switches.contains) then .error (.noUnary op)
    else
      match rest with
      | [] => .error .tooShort
      | word :: rest =>
        if op = "-t" then (number word).map fun _ => (false, rest)
        else if op = "-N" then .ok (false, rest)
        else
          match Condition.unary o op word with
          | .ok holds => .ok (holds, rest)
          | .error _ => .ok (false, rest)

/-- Test two words. -/
def two (o : Occasion) : List String → Judged
  | "!" :: word :: rest => .ok (word = "", rest)
  | ws => if ws.head?.any isSwitch then unary o ws else .error .tooShort

mutual

/-- Conditions joined by `-o`. -/
def either (o : Occasion) (closer : Option String) (fuel : Nat) (ws : List String) : Judged :=
  match fuel with
  | 0 => .error .tooShort
  | fuel + 1 => do
    match ← both o closer fuel ws with
    | (a, "-o" :: ws) => (either o closer fuel ws).map fun (b, ws) => (a || b, ws)
    | result => return result

/-- Conditions joined by `-a`. -/
def both (o : Occasion) (closer : Option String) (fuel : Nat) (ws : List String) : Judged :=
  match fuel with
  | 0 => .error .tooShort
  | fuel + 1 => do
    match ← single o closer fuel ws with
    | (a, "-a" :: ws) => (both o closer fuel ws).map fun (b, ws) => (a && b, ws)
    | result => return result

/-- A test, a word, a negation, or a condition in parentheses. -/
def single (o : Occasion) (closer : Option String) (fuel : Nat) (ws : List String) : Judged :=
  match fuel with
  | 0 => .error .tooShort
  | fuel + 1 =>
    match ws with
    | [] => .error .tooShort
    | "!" :: rest => (single o closer fuel rest).map fun (a, ws) => (!a, ws)
    | ["("] => .error .tooShort
    | "(" :: rest => do
      let inside := (rest.drop 1).takeWhile (· ≠ ")")
      let count := if 4 ≤ inside.length then rest.length else inside.length + 1
      match ← counted o closer fuel count rest with
      | (a, ")" :: ws) => return (a, ws)
      | (_, ws) => .error (.unclosed (ws.head? <|> closer))
    | word :: rest =>
      if 3 ≤ rest.length && word = "-l" && rest[1]?.any isBinary then binary o true rest
      else if 2 ≤ rest.length && rest.head?.any isBinary then binary o false ws
      else if isSwitch word then unary o ws
      else .ok (word ≠ "", rest)

/-- Test three words. -/
def three (o : Occasion) (closer : Option String) (fuel : Nat) (ws : List String) : Judged :=
  match fuel with
  | 0 => .error .tooShort
  | fuel + 1 =>
    match ws with
    | first :: middle :: last :: rest =>
      if isBinary middle then binary o false ws
      else if first = "!" then (two o (middle :: last :: rest)).map fun (a, ws) => (!a, ws)
      else if first = "(" && last = ")" then .ok (middle ≠ "", rest)
      else if middle = "-a" || middle = "-o" then either o closer fuel ws
      else .error (.noBinary middle)
    | _ => .error .tooShort

/-- Test so many words. -/
def counted (o : Occasion) (closer : Option String) (fuel : Nat) (count : Nat)
    (ws : List String) : Judged :=
  match fuel with
  | 0 => .error .tooShort
  | fuel + 1 =>
    match count, ws with
    | 1, word :: rest => .ok (word ≠ "", rest)
    | 2, ws => two o ws
    | 3, ws => three o closer fuel ws
    | 4, "!" :: rest => (three o closer fuel rest).map fun (a, ws) => (!a, ws)
    | 4, "(" :: rest =>
      if rest[2]? = some ")" then (two o rest).map fun (a, ws) => (a, ws.tail)
      else either o closer fuel ws
    | _, ws => either o closer fuel ws

end

/-- The value of a condition.  `closer` is the word after the last one. -/
def value (o : Occasion) (closer : Option String) (words : List String) :
    Except TestFault Bool := do
  if words.isEmpty then return false
  match ← counted o closer (4 * words.length + 8) words.length words with
  | (a, []) => return a
  | (_, word :: _) => .error (.surplus word)

end Test

/-- The wording of a fault in some words. -/
def testFaultText (words : List String) : TestFault → String
  | .tooShort =>
    let last := words.getLastD ""
    s!"missing argument after {quoted last}"
  | .noUnary word => s!"{quoted word}: unary operator expected"
  | .noBinary word => s!"{quoted word}: binary operator expected"
  | .noNumber word => s!"invalid integer {quoted word}"
  | .unclosed none => "')' expected"
  | .unclosed (some found) => s!"')' expected, found {quoted found}"
  | .surplus word => s!"extra argument {quoted word}"
  | .noLength op => s!"{op} does not accept -l"

/-- Test a condition that ends with its words or with a word of its own. -/
def testWith (closer : Option String) (o : Occasion) (words : List String) : Effect :=
  match Test.value o closer words with
  | .ok true => silent o 0
  | .ok false => silent o 1
  | .error e => complain o 2 (testFaultText words e)

/-- Test a condition. -/
def test (o : Occasion) : Effect := testWith none o o.args

/-- Test a condition in brackets. -/
def bracket (o : Occasion) : Effect :=
  if o.args.getLast? = some "]" then testWith (some "]") o o.args.dropLast
  else complain o 2 "missing ']'"

end Outflow.Utility
