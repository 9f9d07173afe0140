/-!
# Numbers with a fraction, as programs read and write them

An `Amount` is an exact quotient, or one of the two values that are no number in the common
sense.  A program holds it in binary with so many digits; `Amount.held` rounds to the nearest
such number.  Writing rounds the exact value to so many decimal places, and a half goes to the
even neighbour.
-/

namespace Outflow

/-- The value of a decimal or hexadecimal digit. -/
def digitValue? (c : Char) : Option Nat :=
  if '0' ≤ c ∧ c ≤ '9' then some (c.toNat - 48)
  else if 'a' ≤ c ∧ c ≤ 'f' then some (c.toNat - 87)
  else if 'A' ≤ c ∧ c ≤ 'F' then some (c.toNat - 55)
  else none

/-- Whether a character is a digit in a base. -/
def isDigitIn (base : Nat) (c : Char) : Bool := (digitValue? c).any (· < base)

/-- The value of some digits in a base. -/
def valueIn (base : Nat) (cs : List Char) : Nat :=
  cs.foldl (fun n c => n * base + (digitValue? c).getD 0) 0

/-- A quotient rounded to a whole number; a half goes to the even neighbour. -/
def roundQuotient (num den : Nat) : Nat :=
  let q := num / den
  let r := num % den
  if den < 2 * r || (2 * r == den && q % 2 == 1) then q + 1 else q

/-- A number as programs hold it. -/
inductive Amount where
  /-- The quotient of two numbers. -/
  | finite (negative : Bool) (num den : Nat)
  | infinite (negative : Bool)
  | notANumber (negative : Bool)
  deriving DecidableEq, Repr

namespace Amount

/-- Zero. -/
def zero : Amount := finite false 0 1

/-- A whole number. -/
def ofInt (n : Int) : Amount := finite (n < 0) n.natAbs 1

/-- Whether a number is below zero, or has a sign that says so. -/
def isNegative : Amount → Bool
  | finite negative _ _ => negative
  | infinite negative => negative
  | notANumber negative => negative

/-- The numbers with a fraction that a program can hold. -/
structure Binary where
  /-- How many binary digits a number has. -/
  bits : Nat
  /-- The power of two of the largest numbers.  From its counterpart below zero on, numbers have
  fewer digits. -/
  top : Nat
  /-- How many of the digits stand before the point in hexadecimal. -/
  lead : Nat

namespace Binary

/-- Numbers of 64 bits. -/
def double : Binary := ⟨53, 1023, 1⟩

/-- Numbers of 80 bits. -/
def extended : Binary := ⟨64, 16383, 4⟩

/-- The power of two of the least numbers that have all their digits. -/
def bottom (b : Binary) : Int := 1 - (b.top : Int)

end Binary

/-- A quotient divided by a power of two. -/
def overPower (e : Int) (num den : Nat) : Nat × Nat :=
  (num * Nat.pow 2 (-e).toNat, den * Nat.pow 2 e.toNat)

/-- The greatest power of two that a quotient above zero reaches. -/
def powerReached (num den : Nat) : Int :=
  let guess : Int := (Nat.log2 num : Int) - Nat.log2 den
  let (n, d) := overPower guess num den
  if n < d then guess - 1 else guess

/-- The nearest number that can be held, and whether it stands for the wanted one: not if that
is too large, or so small that digits of it are lost. -/
def held (b : Binary) : Amount → Amount × Bool
  | finite negative num den =>
    if num = 0 || den = 0 then (finite negative 0 1, true)
    else
      let grid := max (powerReached num den) b.bottom - ((b.bits : Int) - 1)
      let (n, d) := overPower grid num den
      let m := roundQuotient n d
      if Nat.pow 2 b.bits ≤ m ∧ (b.top : Int) < grid + b.bits
          ∨ (b.top : Int) < grid + b.bits - 1 then
        (infinite negative, false)
      else
        let isWhole := Nat.pow 2 (b.bits - 1) ≤ m || n % d == 0
        (finite negative (m * Nat.pow 2 grid.toNat) (Nat.pow 2 (-grid).toNat), isWhole)
  | a => (a, true)

/-! ### Reading -/

/-- An exponent with an optional sign, and what follows it. -/
def readExponent (cs : List Char) : Option (Int × List Char) :=
  let (negative, rest) := match cs with
    | '-' :: rest => (true, rest)
    | '+' :: rest => (false, rest)
    | rest => (false, rest)
  let digits := rest.takeWhile Char.isDigit
  if digits.isEmpty then none
  else
    let n : Int := min (valueIn 10 digits) 100000
    some (if negative then -n else n, rest.dropWhile Char.isDigit)

/-- A quotient with another power of a base. -/
def scaleBy (base : Nat) (exponent : Int) (num den : Nat) : Nat × Nat :=
  (num * Nat.pow base exponent.toNat, den * Nat.pow base (-exponent).toNat)

/-- Digits with an optional point and exponent.  The exponent counts powers of `power`. -/
def readDigits (base power : Nat) (marks : List Char) (cs : List Char) :
    Option (Nat × Nat × List Char) :=
  let whole := cs.takeWhile (isDigitIn base)
  let rest := cs.dropWhile (isDigitIn base)
  let (fraction, rest) := match rest with
    | '.' :: after =>
      if whole.isEmpty && !(after.head?.any (isDigitIn base)) then ([], rest)
      else (after.takeWhile (isDigitIn base), after.dropWhile (isDigitIn base))
    | _ => ([], rest)
  if whole.isEmpty && fraction.isEmpty then none
  else
    let num := valueIn base (whole ++ fraction)
    let den := Nat.pow base fraction.length
    match rest with
    | c :: after =>
      match (if marks.contains c then readExponent after else none) with
      | some (e, rest) =>
        let (num, den) := scaleBy power e num den
        some (num, den, rest)
      | none => some (num, den, rest)
    | [] => some (num, den, [])

/-- A text without another in front, whatever its case. -/
def dropWord? (word : String) (cs : List Char) : Option (List Char) :=
  if (cs.take word.length).map Char.toLower = word.toList then some (cs.drop word.length) else none

/-- The number at the front of a text, and what follows it. -/
def read? (cs : List Char) : Option (Amount × List Char) :=
  let cs := cs.dropWhile fun c => c = ' ' || ('\t' ≤ c && c ≤ '\x0d')
  let (negative, rest) := match cs with
    | '-' :: rest => (true, rest)
    | '+' :: rest => (false, rest)
    | rest => (false, rest)
  let finite? (r : Option (Nat × Nat × List Char)) : Option (Amount × List Char) :=
    r.map fun (num, den, rest) => (finite negative num den, rest)
  match dropWord? "infinity" rest, dropWord? "inf" rest, dropWord? "nan" rest with
  | some rest, _, _ => some (infinite negative, rest)
  | _, some rest, _ => some (infinite negative, rest)
  | _, _, some rest => some (notANumber negative, rest)
  | none, none, none =>
    match rest with
    | '0' :: x :: digits =>
      if x = 'x' ∨ x = 'X' then
        (finite? (readDigits 16 2 ['p', 'P'] digits)).orElse fun () =>
          some (finite negative 0 1, x :: digits)
      else finite? (readDigits 10 10 ['e', 'E'] rest)
    | rest => finite? (readDigits 10 10 ['e', 'E'] rest)

/-! ### Writing -/

/-- Digits with a point before the last `places` of them. -/
def withPoint (places : Nat) (n : Nat) : List Char :=
  let digits := Nat.toDigits 10 n
  let digits := List.replicate (places + 1 - digits.length) '0' ++ digits
  let whole := digits.take (digits.length - places)
  if places = 0 then whole else whole ++ '.' :: digits.drop (digits.length - places)

/-- A quotient with so many decimal places. -/
def fixed (places num den : Nat) : List Char :=
  withPoint places (roundQuotient (num * Nat.pow 10 places) den)

/-- The power of ten of the first digit of a quotient above zero. -/
def magnitude (num den : Nat) : Int :=
  let guess : Int := ((Nat.toDigits 10 num).length : Int) - (Nat.toDigits 10 den).length
  let (n, d) := scaleBy 10 (-guess) num den
  if n < d then guess - 1 else guess

/-- The digits of a quotient, one before the point and `places` after it, as a whole number, and
the power of ten of the first one. -/
def significant (places num den : Nat) : Nat × Int :=
  if num = 0 then (0, 0)
  else
    let e := magnitude num den
    let (n, d) := scaleBy 10 ((places : Int) - e) num den
    let m := roundQuotient n d
    if m = Nat.pow 10 (places + 1) then (m / 10, e + 1) else (m, e)

/-- The spelling of an exponent: a sign and at least two digits. -/
def exponentText (mark : Char) (e : Int) : List Char :=
  let digits := Nat.toDigits 10 e.natAbs
  mark :: (if e < 0 then '-' else '+') :: (if digits.length < 2 then '0' :: digits else digits)

/-- A quotient with one digit before the point and an exponent. -/
def scientific (mark : Char) (places num den : Nat) : List Char :=
  let (m, e) := significant places num den
  withPoint places m ++ exponentText mark e

/-- A text without zeros at the end of its fraction. -/
def trimZeros (cs : List Char) : List Char :=
  if cs.contains '.' then
    let cs := (cs.reverse.dropWhile (· = '0')).reverse
    if cs.getLast? = some '.' then cs.dropLast else cs
  else cs

/-- A quotient with so many digits that matter, in the shorter of the two ways.  With `zeros` the
zeros at the end stay. -/
def general (mark : Char) (zeros : Bool) (digits num den : Nat) : List Char :=
  let digits := max digits 1
  let (m, e) := significant (digits - 1) num den
  let trim (cs : List Char) : List Char := if zeros then cs else trimZeros cs
  if e < -4 || (digits : Int) ≤ e then
    trim (withPoint (digits - 1) m) ++ exponentText mark e
  else trim (fixed ((digits : Int) - 1 - e).toNat num den)

/-- A held quotient in hexadecimal, a power of two behind it.  Without a number of places it has
those that it needs; with `point` the point stays even if nothing follows it. -/
def hexadecimal (b : Binary) (point : Bool) (places : Option Nat) (num den : Nat) : List Char :=
  let whole := (b.bits - b.lead + 3) / 4
  let used := places.getD whole
  let e : Int := if num = 0 then 0 else max (powerReached num den) b.bottom - ((b.lead : Int) - 1)
  let (n, d) := overPower e num den
  let m := roundQuotient (n * Nat.pow 16 used) d
  let (m, e) := if Nat.pow 16 (used + 1) ≤ m then (m / 16, e + 4) else (m, e)
  let digits := Nat.toDigits 16 m
  let digits := List.replicate (used + 1 - digits.length) '0' ++ digits
  let fraction := digits.drop 1
  let fraction :=
    if places.isNone then (fraction.reverse.dropWhile (· = '0')).reverse else fraction
  digits.take 1 ++ (if point || !fraction.isEmpty then ['.'] else []) ++ fraction ++
    'p' :: (if e < 0 then '-' else '+') :: Nat.toDigits 10 e.natAbs

end Amount

end Outflow
