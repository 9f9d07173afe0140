import Outflow.Json

/-!
# Reading JSON

`Json.read?` reads one document: a value with nothing but spaces around it.  It accepts every
spelling of a value, not only the one that `Json.pretty` writes, and keeps the members of an
object in order.
-/

namespace Outflow

namespace Json

/-- The characters that may stand between tokens. -/
def isSpace (c : Char) : Bool := c = ' ' || c = '\t' || c = '\n' || c = '\r'

/-- The value of a hexadecimal digit of either case. -/
def hexValue? (c : Char) : Option Nat :=
  if '0' ≤ c ∧ c ≤ '9' then some (c.toNat - 48)
  else if 'a' ≤ c ∧ c ≤ 'f' then some (c.toNat - 87)
  else if 'A' ≤ c ∧ c ≤ 'F' then some (c.toNat - 55)
  else none

/-- The value of four hexadecimal digits. -/
def unit? (a b c d : Char) : Option Nat := do
  some ((((← hexValue? a) * 16 + (← hexValue? b)) * 16 + (← hexValue? c)) * 16 + (← hexValue? d))

/-- The character of a code point, unless that is half of a surrogate pair. -/
def scalar? (n : Nat) : Option Char := if n.isValidChar then some (Char.ofNat n) else none

/-- The character of a surrogate pair. -/
def surrogates? (high low : Nat) : Option Char :=
  if 0xD800 ≤ high ∧ high < 0xDC00 ∧ 0xDC00 ≤ low ∧ low < 0xE000 then
    scalar? (0x10000 + (high - 0xD800) * 1024 + (low - 0xDC00))
  else none

/-- The character that an escape with one letter stands for. -/
def shortEscape? : Char → Option Char
  | '"' => some '"'
  | '\\' => some '\\'
  | '/' => some '/'
  | 'b' => some '\x08'
  | 'f' => some '\x0c'
  | 'n' => some '\n'
  | 'r' => some '\r'
  | 't' => some '\t'
  | _ => none

/-- The rest of a string after its opening quote, and what follows the closing one. -/
def readChars : List Char → Option (List Char × List Char)
  | [] => none
  | '"' :: rest => some ([], rest)
  | '\\' :: 'u' :: a :: b :: c :: d :: rest =>
    match (unit? a b c d).bind scalar? with
    | some ch => (readChars rest).map fun (cs, after) => (ch :: cs, after)
    | none =>
      match rest with
      | '\\' :: 'u' :: e :: f :: g :: h :: rest =>
        match unit? a b c d, unit? e f g h with
        | some high, some low =>
          match surrogates? high low with
          | some ch => (readChars rest).map fun (cs, after) => (ch :: cs, after)
          | none => none
        | _, _ => none
      | _ => none
  | '\\' :: c :: rest =>
    match shortEscape? c with
    | some ch => (readChars rest).map fun (cs, after) => (ch :: cs, after)
    | none => none
  | c :: rest =>
    if c.toNat < 32 ∨ c = '\\' then none
    else (readChars rest).map fun (cs, after) => (c :: cs, after)

/-- The value of some decimal digits. -/
def digitsValue (cs : List Char) : Nat := cs.foldl (fun n c => n * 10 + (c.toNat - 48)) 0

/-- A sign and the digits after it. -/
def readSigned : List Char → Option (Int × List Char)
  | '-' :: cs => unsigned (-1) cs
  | '+' :: cs => unsigned 1 cs
  | cs => unsigned 1 cs
where
  /-- The digits after a sign. -/
  unsigned (sign : Int) (cs : List Char) : Option (Int × List Char) :=
    let digits := cs.takeWhile Char.isDigit
    if digits.isEmpty then none else some (sign * digitsValue digits, cs.dropWhile Char.isDigit)

/-- The power of ten of a number, and what follows it. -/
def readExponent : List Char → Option (Int × List Char)
  | 'e' :: cs => readSigned cs
  | 'E' :: cs => readSigned cs
  | cs => some (0, cs)

/-- The digits of a number after its whole part, which continue the number `n`. -/
def readFraction (n : Nat) : List Char → Option (Nat × Nat × List Char)
  | '.' :: cs =>
    let digits := cs.takeWhile Char.isDigit
    if digits.isEmpty then none
    else
      let scale := Nat.pow 10 digits.length
      some (n * scale + digitsValue digits, digits.length, cs.dropWhile Char.isDigit)
  | cs => some (n, 0, cs)

/-- A number without its sign. -/
def readMagnitude (sign : Int) (cs : List Char) : Option (Json × List Char) := do
  let digits := cs.takeWhile Char.isDigit
  if digits.isEmpty || (digits.head? == some '0' && digits.length != 1) then none
  else
    let (n, places, rest) ← readFraction (digitsValue digits) (cs.dropWhile Char.isDigit)
    let (exponent, rest) ← readExponent rest
    some (.number (sign * n) (exponent - places), rest)

/-- A number. -/
def readNumber : List Char → Option (Json × List Char)
  | '-' :: cs => readMagnitude (-1) cs
  | cs => readMagnitude 1 cs

/-- Some characters without the spaces in front. -/
def skip (cs : List Char) : List Char := cs.dropWhile isSpace

/-- What follows a word that some characters begin with. -/
def after? (word : String) (cs : List Char) : Option (List Char) :=
  if word.toList.isPrefixOf cs then some (cs.drop word.toList.length) else none

mutual

/-- A value at the front of some characters, and what follows it.  A value of depth and size
below `fuel` is read in full. -/
def readValue (fuel : Nat) (cs : List Char) : Option (Json × List Char) :=
  match fuel with
  | 0 => none
  | fuel + 1 =>
    match skip cs with
    | 'n' :: rest => (after? "ull" rest).map (.null, ·)
    | 't' :: rest => (after? "rue" rest).map (.bool true, ·)
    | 'f' :: rest => (after? "alse" rest).map (.bool false, ·)
    | '"' :: rest => (readChars rest).map fun (s, rest) => (.string (String.ofList s), rest)
    | '[' :: rest =>
      match skip rest with
      | ']' :: rest => some (.array [], rest)
      | rest =>
        match readElement fuel rest with
        | some (vs, rest) => some (.array vs, rest)
        | none => none
    | '\x7b' :: rest =>
      match skip rest with
      | '\x7d' :: rest => some (.object [], rest)
      | rest =>
        match readMember fuel rest with
        | some (ms, rest) => some (.object ms, rest)
        | none => none
    | cs => readNumber cs

/-- An element of an array and all after it. -/
def readElement (fuel : Nat) (cs : List Char) : Option (List Json × List Char) :=
  match fuel with
  | 0 => none
  | fuel + 1 =>
    match readValue fuel cs with
    | none => none
    | some (v, rest) =>
      match skip rest with
      | ']' :: rest => some ([v], rest)
      | ',' :: rest => (readElement fuel rest).map fun (vs, rest) => (v :: vs, rest)
      | _ => none

/-- A member of an object and all after it. -/
def readMember (fuel : Nat) (cs : List Char) : Option (List (String × Json) × List Char) :=
  match fuel with
  | 0 => none
  | fuel + 1 =>
    match skip cs with
    | '"' :: rest =>
      match readChars rest with
      | none => none
      | some (key, rest) =>
        match skip rest with
        | ':' :: rest =>
          match readValue fuel rest with
          | none => none
          | some (v, rest) =>
            match skip rest with
            | '\x7d' :: rest => some ([(String.ofList key, v)], rest)
            | ',' :: rest =>
              (readMember fuel rest).map fun (ms, rest) => ((String.ofList key, v) :: ms, rest)
            | _ => none
        | _ => none
    | _ => none

end

/-- Read one document. -/
def read? (s : String) : Option Json :=
  match readValue (s.toList.length + 1) s.toList with
  | some (v, rest) => if (skip rest).isEmpty then some v else none
  | none => none

end Json

end Outflow
