import Outflow.Toml

/-!
# The spellings of TOML values without parts

Strings in their four spellings, whole numbers in four bases, numbers with a fraction or an
exponent, truth values, and dates and times.
-/

namespace Outflow.Toml

/-! ### Characters -/

/-- What may stand between two tokens of a line. -/
def isSpace (c : Char) : Bool := c = ' ' || c = '\t'

/-- What may stand in a comment or a string. -/
def isTextChar (c : Char) : Bool := c = '\t' || (32 ≤ c.toNat && c.toNat ≠ 127)

/-- What follows the end of a line. -/
def newline? : List Char → Option (List Char)
  | '\n' :: rest => some rest
  | '\r' :: '\n' :: rest => some rest
  | _ => none

/-- The value of a hexadecimal digit of either case. -/
def hexValue? (c : Char) : Option Nat :=
  if '0' ≤ c ∧ c ≤ '9' then some (c.toNat - 48)
  else if 'a' ≤ c ∧ c ≤ 'f' then some (c.toNat - 87)
  else if 'A' ≤ c ∧ c ≤ 'F' then some (c.toNat - 55)
  else none

/-- The character whose code point some hexadecimal digits give. -/
def codePoint? (digits : List Char) : Option Char := do
  let n ← digits.foldlM (fun n c => (hexValue? c).map (n * 16 + ·)) 0
  if n.isValidChar then some (Char.ofNat n) else none

/-- The character that an escape of one letter stands for. -/
def shortEscape? : Char → Option Char
  | 'b' => some '\x08'
  | 't' => some '\t'
  | 'n' => some '\n'
  | 'f' => some '\x0c'
  | 'r' => some '\r'
  | 'e' => some '\x1b'
  | '"' => some '"'
  | '\\' => some '\\'
  | _ => none

/-! ### Strings -/

/-- A character in front of what a string goes on with. -/
def prepend (c : Char) : Option (List Char × List Char) → Option (List Char × List Char) :=
  Option.map fun (cs, rest) => (c :: cs, rest)

/-- A string in double quotes, after the first: its characters, and what follows it. -/
def readBasic : List Char → Option (List Char × List Char)
  | '"' :: rest => some ([], rest)
  | '\\' :: 'x' :: a :: b :: rest => (codePoint? [a, b]).bind (prepend · (readBasic rest))
  | '\\' :: 'u' :: a :: b :: c :: d :: rest =>
    (codePoint? [a, b, c, d]).bind (prepend · (readBasic rest))
  | '\\' :: 'U' :: a :: b :: c :: d :: e :: f :: g :: h :: rest =>
    (codePoint? [a, b, c, d, e, f, g, h]).bind (prepend · (readBasic rest))
  | '\\' :: c :: rest => (shortEscape? c).bind (prepend · (readBasic rest))
  | c :: rest => if isTextChar c ∧ c ≠ '\\' then prepend c (readBasic rest) else none
  | [] => none

/-- A string in single quotes, after the first. -/
def readLiteral : List Char → Option (List Char × List Char)
  | '\'' :: rest => some ([], rest)
  | c :: rest => if isTextChar c then prepend c (readLiteral rest) else none
  | [] => none

/-- What a backslash at the end of a line has done so far. -/
inductive Joining where
  /-- No line is being joined. -/
  | no
  /-- Only spaces came after the backslash. -/
  | lineEnds
  /-- The line has ended; spaces and further line ends are passed over. -/
  | lineEnded
  deriving DecidableEq

/-- A string in three double quotes, after its opening. -/
def readMultiBasic (joining : Joining) : List Char → Option (List Char × List Char)
  | [] => none
  | c :: rest =>
    if joining ≠ .no && isSpace c then readMultiBasic joining rest
    else if joining ≠ .no && c = '\r' && rest.head? = some '\n' then readMultiBasic joining rest
    else if joining ≠ .no && c = '\n' then readMultiBasic .lineEnded rest
    else if joining = .lineEnds then none
    else
      match c, rest with
      | '"', '"' :: '"' :: '"' :: '"' :: rest => some (['"', '"'], rest)
      | '"', '"' :: '"' :: '"' :: rest => some (['"'], rest)
      | '"', '"' :: '"' :: rest => some ([], rest)
      | '\\', 'x' :: a :: b :: rest =>
        (codePoint? [a, b]).bind (prepend · (readMultiBasic .no rest))
      | '\\', 'u' :: a :: b :: c :: d :: rest =>
        (codePoint? [a, b, c, d]).bind (prepend · (readMultiBasic .no rest))
      | '\\', 'U' :: a :: b :: c :: d :: e :: f :: g :: h :: rest =>
        (codePoint? [a, b, c, d, e, f, g, h]).bind (prepend · (readMultiBasic .no rest))
      | '\\', ' ' :: rest => readMultiBasic .lineEnds rest
      | '\\', '\t' :: rest => readMultiBasic .lineEnds rest
      | '\\', '\n' :: rest => readMultiBasic .lineEnded rest
      | '\\', '\r' :: '\n' :: rest => readMultiBasic .lineEnded rest
      | '\\', c :: rest => (shortEscape? c).bind (prepend · (readMultiBasic .no rest))
      | '\r', '\n' :: rest => (readMultiBasic .no rest).map fun (cs, rest) => ('\n' :: cs, rest)
      | c, rest =>
        if (isTextChar c ∨ c = '\n') ∧ c ≠ '\\' then prepend c (readMultiBasic .no rest) else none

/-- A string in three single quotes, after its opening. -/
def readMultiLiteral : List Char → Option (List Char × List Char)
  | '\'' :: '\'' :: '\'' :: '\'' :: '\'' :: rest => some (['\'', '\''], rest)
  | '\'' :: '\'' :: '\'' :: '\'' :: rest => some (['\''], rest)
  | '\'' :: '\'' :: '\'' :: rest => some ([], rest)
  | '\r' :: '\n' :: rest => prepend '\n' (readMultiLiteral rest)
  | c :: rest =>
    if isTextChar c ∨ c = '\n' then prepend c (readMultiLiteral rest) else none
  | [] => none

/-- A line end right after the opening of a string in three quotes does not belong to it. -/
def skipNewline (cs : List Char) : List Char := (newline? cs).getD cs

/-- A string, if one begins here. -/
def readString : List Char → Option (List Char × List Char)
  | '"' :: '"' :: '"' :: rest => readMultiBasic .no (skipNewline rest)
  | '\'' :: '\'' :: '\'' :: rest => readMultiLiteral (skipNewline rest)
  | '"' :: rest => readBasic rest
  | '\'' :: rest => readLiteral rest
  | _ => none

/-! ### Numbers -/

/-- The value of some digits in a base. -/
def digitsValue (base : Nat) (cs : List Char) : Nat :=
  cs.foldl (fun n c => n * base + (hexValue? c).getD 0) 0

/-- The digits of a number in a base, in which single underscores may stand between digits. -/
def digits? (base : Nat) (cs : List Char) : Option (List Char) :=
  let parts := cs.splitOn '_'
  if parts.all fun part => !part.isEmpty && part.all fun c => (hexValue? c).any (· < base) then
    some parts.flatten
  else none

/-- Decimal digits that do not begin with a zero, or a lone zero. -/
def wholeDigits? (cs : List Char) : Option (List Char) := do
  let digits ← digits? 10 cs
  if digits.head? = some '0' ∧ cs.length ≠ 1 then none else some digits

/-- A word without the sign in front, and whether that is a minus. -/
def unsigned : List Char → Bool × List Char
  | '-' :: cs => (true, cs)
  | '+' :: cs => (false, cs)
  | cs => (false, cs)

/-- Whether a character is a digit in some base. -/
def isAnyDigit (c : Char) : Bool := (hexValue? c).isSome

/-- Whether a text holds a mark that only numbers with a fraction or an exponent have. -/
def hasFloatMark (cs : List Char) : Bool := cs.any fun c => c = '.' || c = 'e' || c = 'E'

/-- What digits with underscores between them spell.  Only the characters beside an underscore
are looked at, so there may be no number in the end. -/
def looseDigits? (cs : List Char) : Option (Option Int) :=
  let parts := cs.splitOn '_'
  if parts.all (fun part => part.head?.any isAnyDigit) &&
      parts.dropLast.all (fun part => part.getLast?.any isAnyDigit) then
    let digits := parts.flatten
    some (if digits.all Char.isDigit then some (digitsValue 10 digits) else none)
  else none

/-- The digits after a letter that names their base.  There may be none of them. -/
def basedDigits? (base : Nat) (cs : List Char) : Option (Option Int) :=
  if cs.isEmpty then some none else (digits? base cs).map fun ds => some (digitsValue base ds)

/-- Decimal digits. -/
def decimalDigits? (cs : List Char) : Option (Option Int) :=
  let front := cs.takeWhile Char.isDigit
  let rest := cs.dropWhile Char.isDigit
  match front, rest with
  | [], _ => none
  | _, [] => (wholeDigits? cs).map fun ds => some (digitsValue 10 ds)
  | _, '_' :: _ =>
    if front.head? == some '0' || hasFloatMark rest then none else looseDigits? cs
  | _, _ => none

/-- A whole number: decimal with an optional sign, or without one in base 16, 8 or 2. -/
def integer? : List Char → Option (Option Int)
  | '0' :: 'x' :: cs => basedDigits? 16 cs
  | '0' :: 'o' :: cs => basedDigits? 8 cs
  | '0' :: 'b' :: cs => basedDigits? 2 cs
  | cs =>
    let (negative, rest) := unsigned cs
    (decimalDigits? rest).map fun n => if negative then n.map (- ·) else n

/-- The exponent that some digits with an optional sign give. -/
def exponent? (cs : List Char) : Option Int :=
  let (negative, cs) := unsigned cs
  (digits? 10 cs).map fun ds => if negative then -(digitsValue 10 ds : Int) else digitsValue 10 ds

/-- A number without sign: whole digits, then a fraction, an exponent or both. -/
def magnitude? (cs : List Char) : Option FloatValue := do
  let isMark (c : Char) : Bool := c = 'e' || c = 'E'
  let significand := cs.takeWhile (!isMark ·)
  let exponent ← match cs.dropWhile (!isMark ·) with
    | [] => some none
    | _ :: cs => (exponent? cs).map some
  let whole ← wholeDigits? (significand.takeWhile (· ≠ '.'))
  match significand.dropWhile (· ≠ '.'), exponent with
  | [], none => none
  | [], some e => some (.finite (digitsValue 10 whole) e)
  | _ :: cs, e =>
    let fraction ← digits? 10 cs
    some (.finite (digitsValue 10 (whole ++ fraction)) (e.getD 0 - fraction.length))

/-- A number with a fraction or an exponent, or one of the two names. -/
def float? (cs : List Char) : Option FloatValue :=
  let (_, rest) := unsigned cs
  if rest = "inf".toList then some .infinite
  else if rest = "nan".toList then some .notANumber
  else magnitude? rest

/-- The least coefficient of `2 ^ 971` that rounds to no double-precision number: the largest one
is `2 ^ 53 - 1`, and half a unit above it the rounding goes up. -/
def doubleRange : Nat := (Nat.pow 2 54 - 1) * Nat.pow 2 970

/-- Whether a number is within the range of double precision. -/
def FloatValue.inRange : FloatValue → Bool
  | infinite => true
  | notANumber => true
  | finite coefficient exponent =>
    -- The count of digits settles all but the numbers near the edge.
    let size : Int := (Nat.toDigits 10 coefficient).length + exponent
    if coefficient = 0 || size ≤ 300 then true
    else if 320 ≤ size then false
    else coefficient * Nat.pow 10 exponent.toNat < doubleRange * Nat.pow 10 (-exponent).toNat

/-! ### Dates and times -/

/-- The number that exactly so many decimal digits give. -/
def field? (width : Nat) (cs : List Char) : Option Nat :=
  if cs.length = width && cs.all Char.isDigit then some (digitsValue 10 cs) else none

/-- The days of a month. -/
def daysIn (year month : Nat) : Nat :=
  if month = 2 then if year % 4 = 0 ∧ (year % 100 ≠ 0 ∨ year % 400 = 0) then 29 else 28
  else if month = 4 ∨ month = 6 ∨ month = 9 ∨ month = 11 then 30
  else 31

/-- Whether a word is a date. -/
def isDate (cs : List Char) : Bool :=
  match cs.splitOn '-' with
  | [year, month, day] =>
    match field? 4 year, field? 2 month, field? 2 day with
    | some year, some month, some day =>
      1 ≤ month && month ≤ 12 && 1 ≤ day && day ≤ daysIn year month
    | _, _, _ => false
  | _ => false

/-- Whether a word is a number of seconds, with or without a fraction. -/
def isSeconds (cs : List Char) : Bool :=
  (field? 2 (cs.takeWhile (· ≠ '.'))).any (· ≤ 60) &&
  match cs.dropWhile (· ≠ '.') with
  | [] => true
  | _ :: fraction => !fraction.isEmpty && fraction.all Char.isDigit

/-- Whether words are the hours, minutes and seconds of a time.  Seconds may be left out. -/
def isClock : List (List Char) → Bool
  | hours :: minutes :: rest =>
    (field? 2 hours).any (· ≤ 23) && (field? 2 minutes).any (· ≤ 59) &&
    match rest with
    | [] => true
    | [seconds] => isSeconds seconds
    | _ => false
  | _ => false

/-- Whether a word is a time of day. -/
def isTime (cs : List Char) : Bool := isClock (cs.splitOn ':')

/-- Whether a word is the distance of a clock from universal time, without its sign. -/
def isOffset (cs : List Char) : Bool :=
  match cs.splitOn ':' with
  | [hours, minutes] => (field? 2 hours).any (· ≤ 23) && (field? 2 minutes).any (· ≤ 59)
  | _ => false

/-- Whether a word is a time of day with or without the offset of its clock. -/
def isZonedTime (cs : List Char) : Bool :=
  let isMark (c : Char) : Bool := c = 'Z' || c = 'z' || c = '+' || c = '-'
  isTime (cs.takeWhile (!isMark ·)) &&
  match cs.dropWhile (!isMark ·) with
  | [] => true
  | ['Z'] => true
  | ['z'] => true
  | '+' :: cs => isOffset cs
  | '-' :: cs => isOffset cs
  | _ => false

/-- Whether a word is a date, a time, or a date and a time. -/
def isDatetime (cs : List Char) : Bool :=
  match cs.drop 10 with
  | [] => isDate cs || isTime cs
  | c :: rest =>
    ((c = 'T' || c = 't' || c = ' ') && isDate (cs.take 10) && isZonedTime rest) || isTime cs

/-! ### Words -/

/-- What may stand in a value that is not quoted. -/
def isWordChar (c : Char) : Bool :=
  isTextChar c && !isSpace c &&
    !(['#', ',', '=', '[', ']', '\x7b', '\x7d', '"', '\''].contains c)

/-- The value of a word. -/
def word? (cs : List Char) : Option Value :=
  if cs = "true".toList then some (.boolean true)
  else if cs = "false".toList then some (.boolean false)
  else
    match integer? cs with
    | some n => some (.integer n)
    | none =>
      match float? cs with
      | some x => some (.float x)
      | none => if isDatetime cs then some (.datetime (String.ofList cs)) else none

/-- Take a word from the front.  A single space may stand between a date and a time. -/
def takeWord (cs : List Char) : List Char × List Char :=
  let word := cs.takeWhile isWordChar
  match cs.dropWhile isWordChar with
  | ' ' :: d :: rest =>
    if isDate word && d.isDigit then
      (word ++ ' ' :: (d :: rest).takeWhile isWordChar, (d :: rest).dropWhile isWordChar)
    else (word, ' ' :: d :: rest)
  | rest => (word, rest)

/-- A value without parts. -/
def readScalar (cs : List Char) : Option (Value × List Char) :=
  match cs with
  | '"' :: _ => (readString cs).map fun (s, rest) => (.string (String.ofList s), rest)
  | '\'' :: _ => (readString cs).map fun (s, rest) => (.string (String.ofList s), rest)
  | _ =>
    let (word, rest) := takeWord cs
    (word? word).map (·, rest)

end Outflow.Toml
