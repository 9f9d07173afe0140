import Outflow.Host.Amount
import Outflow.Host.Quoting

/-!
# Formatted output

The escapes of format strings, and the directives that put arguments into them.  A format is
used again and again until no arguments are left; arguments that are missing count as empty or
as zero.  Formats and arguments are in raw form: each character is one octet.
-/

namespace Outflow.Format

/-- Whether a character is an octal digit. -/
def isOctal (c : Char) : Bool := '0' ≤ c && c ≤ '7'

/-- The octet of a character. -/
def octets (c : Char) : Bytes := [UInt8.ofNat c.toNat]

/-- The octet that an escape of one letter stands for. -/
def letterEscape? : Char → Option UInt8
  | 'a' => some 7
  | 'b' => some 8
  | 'f' => some 12
  | 'n' => some 10
  | 'r' => some 13
  | 't' => some 9
  | 'v' => some 11
  | '\\' => some 92
  | _ => none

/-- Which escapes are known besides the common ones. -/
structure Escapes where
  /-- A zero in front of an octal number does not count as one of its digits. -/
  leadingZero : Bool
  /-- Hexadecimal numbers. -/
  isExtended : Bool

/-- An escape after its backslash: its octets, and what follows it. -/
def readEscape (known : Escapes) (cs : List Char) : Bytes × List Char :=
  match cs with
  | [] => ([92], [])
  | c :: rest =>
    if isOctal c then
      let cs := if known.leadingZero ∧ c = '0' then rest else c :: rest
      let digits := (cs.take 3).takeWhile isOctal
      ([UInt8.ofNat (valueIn 8 digits)], cs.drop digits.length)
    else if c = 'e' then ([27], rest)
    else if known.isExtended ∧ c = 'x' ∧ rest.head?.any (isDigitIn 16) then
      let digits := (rest.take 2).takeWhile (isDigitIn 16)
      ([UInt8.ofNat (valueIn 16 digits)], rest.drop digits.length)
    else
      match letterEscape? c with
      | some b => ([b], rest)
      | none => (92 :: octets c, rest)

/-- A text with its escapes read, and whether an escape asked for the output to stop there.
Fuel is the length of the text. -/
def unescapeWith (known : Escapes) (fuel : Nat) (cs : List Char) : Bytes × Bool :=
  match fuel, cs with
  | 0, _ => ([], false)
  | _, [] => ([], false)
  | fuel + 1, '\\' :: 'c' :: _ => (let _ := fuel; [], true)
  | fuel + 1, '\\' :: rest =>
    let (bytes, rest) := readEscape known rest
    let (more, stop) := unescapeWith known fuel rest
    (bytes ++ more, stop)
  | fuel + 1, c :: rest =>
    let (more, stop) := unescapeWith known fuel rest
    (octets c ++ more, stop)

/-- The text of an argument with its escapes read, and whether output is to stop there. -/
def unescape (isExtended : Bool) (s : String) : Bytes × Bool :=
  unescapeWith ⟨true, isExtended⟩ s.length s.toList

/-! ### Layout -/

/-- What a directive says about layout. -/
structure Spec where
  flags : List Char
  width : Nat
  precision : Option Nat

/-- Some octets, padded to a width. -/
def Spec.pad (spec : Spec) (zeros : Bool) (sign body : Bytes) : Bytes :=
  let missing := spec.width - (sign.length + body.length)
  if spec.flags.contains '-' then sign ++ body ++ List.replicate missing 32
  else if zeros && spec.flags.contains '0' then sign ++ List.replicate missing 48 ++ body
  else List.replicate missing 32 ++ sign ++ body

/-- The sign that is written for a number. -/
def Spec.sign (spec : Spec) (isNegative : Bool) : Bytes :=
  if isNegative then [45]
  else if spec.flags.contains '+' then [43]
  else if spec.flags.contains ' ' then [32]
  else []

/-- Some characters as octets, in capitals if wanted. -/
def letters (upper : Bool) (cs : List Char) : Bytes :=
  (if upper then cs.map Char.toUpper else cs).flatMap octets

/-- A whole number with its sign, laid out. -/
def signed (spec : Spec) (n : Int) : Bytes :=
  let digits := if n = 0 ∧ spec.precision = some 0 then [] else Nat.toDigits 10 n.natAbs
  let digits := List.replicate ((spec.precision.getD 0) - digits.length) '0' ++ digits
  spec.pad spec.precision.isNone (spec.sign (n < 0)) (letters false digits)

/-- A whole number without sign in a base, laid out. -/
def unsigned (spec : Spec) (base : Nat) (upper : Bool) (n : Nat) : Bytes :=
  let digits := if n = 0 ∧ spec.precision = some 0 then [] else Nat.toDigits base n
  let digits := List.replicate ((spec.precision.getD 0) - digits.length) '0' ++ digits
  let marked := spec.flags.contains '#'
  let digits := if marked ∧ base = 8 ∧ digits.head? ≠ some '0' then '0' :: digits else digits
  let front := if marked ∧ base = 16 ∧ n ≠ 0 then letters upper ['0', 'x'] else []
  spec.pad spec.precision.isNone front (letters upper digits)

/-- A number with a fraction, laid out as a letter says. -/
def fractional (binary : Amount.Binary) (spec : Spec) (letter : Char) (a : Amount) : Bytes :=
  let upper := letter.isUpper
  let sign := spec.sign a.isNegative
  match a with
  | .infinite _ => spec.pad false sign (letters upper "inf".toList)
  | .notANumber _ => spec.pad false sign (letters upper "nan".toList)
  | .finite _ num den =>
    let places := spec.precision.getD 6
    let marked := spec.flags.contains '#'
    let body := match letter.toLower with
      | 'a' => Amount.hexadecimal binary marked spec.precision num den
      | 'f' => Amount.fixed places num den ++ if marked && places == 0 then ['.'] else []
      | 'e' => Amount.scientific 'e' places num den
      | _ => Amount.general 'e' marked places num den
    let front := if letter.toLower = 'a' then letters upper ['0', 'x'] else []
    spec.pad true (sign ++ front) (letters upper body)

/-! ### Arguments -/

/-- Something in a format or its arguments that cannot be used. -/
inductive Misfit where
  /-- An argument that is no number, or only begins with one. -/
  | number (arg : String) (isPartial : Bool)
  /-- A character constant with more behind its character. -/
  | surplus (text : String)
  /-- A number that is too large. -/
  | range (arg : String)
  | directive (text : String)
  /-- The format ends within a directive. -/
  | unfinished (text : String)
  /-- An argument that cannot be a width, or a precision. -/
  | size (isWidth : Bool) (arg : String)
  /-- A hexadecimal escape without digits. -/
  | escape
  /-- A text that is longer than any output may be. -/
  | length
  /-- An argument that the format has no use for. -/
  | excess (arg : String)
  deriving DecidableEq, Repr

/-- The whole number at the front of a text, and what follows it; nothing if there is none. -/
def readWhole (cs : List Char) : Option (Int × List Char) :=
  let cs := cs.dropWhile fun c => c = ' ' || ('\t' ≤ c && c ≤ '\x0d')
  let (negative, cs) := match cs with
    | '-' :: cs => (true, cs)
    | '+' :: cs => (false, cs)
    | cs => (false, cs)
  let ofDigits (base : Nat) (cs : List Char) : Option (Int × List Char) :=
    let digits := cs.takeWhile (isDigitIn base)
    if digits.isEmpty then none
    else
      let n : Int := valueIn base digits
      some (if negative then -n else n, cs.dropWhile (isDigitIn base))
  match cs with
  | '0' :: x :: c :: rest =>
    if (x = 'x' ∨ x = 'X') ∧ isDigitIn 16 c then ofDigits 16 (c :: rest)
    else ofDigits 8 cs
  | '0' :: _ => ofDigits 8 cs
  | cs => ofDigits 10 cs

/-- The whole number at the front of an argument, and whether all of the argument was read. -/
def readInteger (s : String) : Int × Bool :=
  match readWhole s.toList with
  | some (n, rest) => (n, rest.isEmpty)
  | none => (0, false)

/-- A character constant: a quote and a character, with whatever follows them. -/
def constant? (s : String) : Option (List Char) :=
  match s.toList with
  | '\'' :: cs => some cs
  | '"' :: cs => some cs
  | _ => none

/-- What differs between the programs that use formats. -/
structure Dialect where
  /-- The numbers with a fraction. -/
  binary : Amount.Binary
  /-- Whether the extended escapes are known, and a directive that quotes. -/
  isExtended : Bool

/-- A number read from an argument, and what is wrong with it. -/
def readNumber {α : Type} (d : Dialect) (other : α) (ofConstant : Nat → α) (arg : String)
    (read : List Char → Option (α × List Char)) : α × List Misfit :=
  match arg.toList, constant? arg with
  | [], _ => (other, [])
  | _, some [] => (ofConstant 0, if d.isExtended then [.number arg false] else [])
  | _, some (c :: more) =>
    (ofConstant c.toNat,
      if d.isExtended ∧ more ≠ [] then [.surplus (String.ofList more)] else [])
  | cs, none =>
    match read cs with
    | some (a, []) => (a, [])
    | some (a, _) => (a, [.number arg true])
    | none => (other, [.number arg false])

/-- A whole number between bounds. -/
def clamp (arg : String) (low high : Int) (r : Int × List Misfit) : Int × List Misfit :=
  let (n, bad) := r
  if n < low then (low, bad ++ [.range arg])
  else if high < n then (high, bad ++ [.range arg])
  else (n, bad)

/-- A whole number with a sign. -/
def signedArgument (d : Dialect) (arg : String) : Int × List Misfit :=
  let limit : Int := (Nat.pow 2 63 : Nat)
  clamp arg (-limit) (limit - 1) (readNumber d 0 Int.ofNat arg readWhole)

/-- A whole number without a sign; one below zero is counted from the other end. -/
def unsignedArgument (d : Dialect) (arg : String) : Nat × List Misfit :=
  let limit : Int := (Nat.pow 2 64 : Nat)
  let (n, bad) := clamp arg (-limit) (limit - 1) (readNumber d 0 Int.ofNat arg readWhole)
  ((n % limit).toNat, bad)

/-- A number with a fraction. -/
def amountArgument (d : Dialect) (arg : String) : Amount × List Misfit :=
  let (a, bad) := readNumber d .zero (fun n => .ofInt n) arg Amount.read?
  let (a, isWhole) := a.held d.binary
  (a, bad ++ if isWhole || !bad.isEmpty then [] else [.range arg])

/-! ### Formats -/

/-- What one pass over a format gives. -/
structure Pass where
  bytes : Bytes
  args : List String
  /-- Whether any directive took an argument. -/
  took : Bool
  /-- Whether output is to stop. -/
  stop : Bool
  bad : List Misfit

/-- Some octets in front of what a pass gives. -/
def Pass.after (bytes : Bytes) (p : Pass) : Pass := { p with bytes := bytes ++ p.bytes }

/-- A width or a precision as it is read. -/
structure Size where
  value : Int
  /-- What follows it. -/
  rest : List Char
  args : List String
  /-- Whether an argument gave it. -/
  took : Bool
  bad : List Misfit

/-- Read a width or a precision: digits, or a star for an argument.  An argument beyond the
numbers of 32 bits loses its upper part, or is refused. -/
def readSize (d : Dialect) (isWidth : Bool) (cs : List Char) (args : List String) : Size :=
  match cs with
  | '*' :: cs =>
    let arg := args.headD ""
    let (n, bad) := signedArgument d arg
    let limit : Int := (Nat.pow 2 31 : Nat)
    if d.isExtended ∧ (limit ≤ n ∨ isWidth ∧ n < -limit) then
      ⟨0, cs, args.tail, true, bad ++ [.size isWidth arg]⟩
    else ⟨n.bmod (Nat.pow 2 32), cs, args.tail, true, bad⟩
  | cs => ⟨valueIn 10 (cs.takeWhile Char.isDigit), cs.dropWhile Char.isDigit, args, false, []⟩

/-- The layout of a directive: flags, a width and a precision. -/
structure Layout where
  spec : Spec
  rest : List Char
  args : List String
  took : Bool
  bad : List Misfit

/-- Read a layout. -/
def readLayout (d : Dialect) (cs : List Char) (args : List String) : Layout :=
  let isFlag (c : Char) : Bool := ['-', '0', '+', ' ', '#', '\''].contains c
  let flags := cs.takeWhile isFlag
  let width := readSize d true (cs.dropWhile isFlag) args
  let flags := if width.value < 0 then '-' :: flags else flags
  match width.rest with
  | '.' :: cs =>
    let size := readSize d false cs width.args
    let precision := if size.value < 0 then none else some size.value.toNat
    ⟨⟨flags, width.value.natAbs, precision⟩, size.rest, size.args, width.took || size.took,
      width.bad ++ size.bad⟩
  | cs => ⟨⟨flags, width.value.natAbs, none⟩, cs, width.args, width.took, width.bad⟩

/-- Whether a layout asks for more than can be written. -/
def Spec.isEndless (spec : Spec) : Bool :=
  let limit := Nat.pow 2 31 - 1
  limit ≤ spec.width || spec.precision.any (limit ≤ ·)

/-- Whether the flags and the precision of a layout go with a letter. -/
def Spec.suits (spec : Spec) (letter : Char) : Bool :=
  let without (flag : Char) (barred : List Char) : Bool :=
    !(spec.flags.contains flag && barred.contains letter)
  without '\'' ['a', 'A', 'c', 'e', 'E', 'o', 's', 'x', 'X'] &&
    without '#' ['c', 'd', 'i', 's', 'u'] && without '0' ['c', 's'] &&
    !(spec.precision.isSome && letter == 'c')

/-- One pass over a format. -/
def pass (d : Dialect) (fuel : Nat) (cs : List Char) (args : List String) (took : Bool)
    (bad : List Misfit) : Pass :=
  match fuel, cs with
  | 0, _ => ⟨[], args, took, false, bad⟩
  | _, [] => ⟨[], args, took, false, bad⟩
  | fuel + 1, '%' :: '%' :: rest => (pass d fuel rest args took bad).after [37]
  | fuel + 1, '%' :: rest =>
    let layout := readLayout d rest args
    let spec := layout.spec
    let args := layout.args
    let took := took || layout.took
    let bad := bad ++ layout.bad
    let arg := args.headD ""
    let stopWith (m : Misfit) : Pass := ⟨[], args, took, true, bad ++ [m]⟩
    let go (bytes : Bytes) (worse : List Misfit) (rest : List Char) : Pass :=
      (pass d fuel rest args.tail true (bad ++ worse)).after bytes
    let cut (bytes : Bytes) : Bytes :=
      match spec.precision with | some p => bytes.take p | none => bytes
    let isRefused : Misfit → Bool
      | .size .. => true
      | _ => false
    -- The programs that know more also skip the letters for sizes of numbers.
    let sized := if d.isExtended then
        layout.rest.dropWhile (['h', 'l', 'L', 'j', 't', 'z'].contains ·)
      else layout.rest
    if bad.any isRefused then ⟨[], args, took, true, bad⟩
    else
      match sized with
      | [] => stopWith (.unfinished (String.ofList ('%' :: rest)))
      | letter :: rest' =>
        let text := String.ofList ('%' :: rest.take (rest.length - rest'.length))
        let whole (base : Nat) (upper : Bool) : Pass :=
          let (n, worse) := unsignedArgument d arg
          go (unsigned spec base upper n) worse rest'
        let isBare := text.length = 2
        if d.isExtended && !(spec.suits letter) then stopWith (.directive text)
        else if spec.isEndless then stopWith .length
        else
          match letter with
          | 's' => go (spec.pad false [] (cut (Bytes.ofRaw arg))) [] rest'
          | 'c' =>
            go (spec.pad false [] (if arg = "" then [0] else (Bytes.ofRaw arg).take 1)) [] rest'
          | 'd' => let (n, worse) := signedArgument d arg; go (signed spec n) worse rest'
          | 'i' => let (n, worse) := signedArgument d arg; go (signed spec n) worse rest'
          | 'u' => whole 10 false
          | 'o' => whole 8 false
          | 'x' => whole 16 false
          | 'X' => whole 16 true
          | letter =>
            if ['a', 'A', 'e', 'E', 'f', 'F', 'g', 'G'].contains letter then
              let (a, worse) := amountArgument d arg
              go (fractional d.binary spec letter a) worse rest'
            else if letter = 'b' ∧ (isBare ∨ !d.isExtended) then
              let (body, stop) := unescape d.isExtended arg
              if stop then ⟨spec.pad false [] (cut body), args.tail, true, true, bad⟩
              else go (spec.pad false [] (cut body)) [] rest'
            else if letter = 'q' ∧ d.isExtended ∧ isBare then
              go (Bytes.ofRaw (shellWord arg)) [] rest'
            else stopWith (.directive text)
  | fuel + 1, '\\' :: rest =>
    if d.isExtended && rest.head? == some 'c' then ⟨[], args, took, true, bad⟩
    else if d.isExtended && rest.head? == some 'x' && !((rest.drop 1).head?.any (isDigitIn 16)) then
      ⟨[], args, took, true, bad ++ [.escape]⟩
    else
      let (bytes, rest) :=
        match rest with
        | '"' :: rest => if d.isExtended then ([34], rest) else ([92, 34], rest)
        | rest => readEscape ⟨false, d.isExtended⟩ rest
      (pass d fuel rest args took bad).after bytes
  | fuel + 1, c :: rest => (pass d fuel rest args took bad).after (octets c)

/-- Use a format until no arguments are left.  Fuel is the number of arguments and one. -/
def passes (d : Dialect) (fuel : Nat) (cs : List Char) (args : List String) :
    Bytes × List Misfit :=
  match fuel with
  | 0 => ([], [])
  | fuel + 1 =>
    let p := pass d (cs.length + 1) cs args false []
    if p.stop || p.args.isEmpty then (p.bytes, p.bad)
    else if !p.took then (p.bytes, p.bad ++ [.excess (args.headD "")])
    else
      let (more, worse) := passes d fuel cs p.args
      (p.bytes ++ more, p.bad ++ worse)

/-- The output of a format with its arguments, and what could not be used of them. -/
def output (d : Dialect) (format : String) (args : List String) : Bytes × List Misfit :=
  passes d (args.length + 1) format.toList args

end Outflow.Format
