import Outflow.Regex
import Outflow.Host.Amount

/-!
# Reading regular expressions

There are two ways to write them.  In the basic one a backslash makes brackets, braces, bars,
plus and question marks special; in the extended one it makes them plain.
-/

namespace Outflow.Regex

/-- Why a text is no regular expression. -/
inductive Fault where
  | openBracket
  | openGroup
  | closedGroup
  | openBrace
  | badBrace
  | badRange
  | badClass
  | badReference
  | trailingBackslash
  | nothingToRepeat
  | tooDeep
  deriving DecidableEq, Repr

/-- The wording of a fault. -/
def Fault.message : Fault → String
  | openBracket => "Unmatched [, [^, [:, [., or [="
  | openGroup => "Unmatched ( or \\("
  | closedGroup => "Unmatched ) or \\)"
  | openBrace => "Unmatched \\\x7b"
  | badBrace => "Invalid content of \\\x7b\\\x7d"
  | badRange => "Invalid range end"
  | badClass => "Invalid character class name"
  | badReference => "Invalid back reference"
  | trailingBackslash => "Trailing backslash"
  | nothingToRepeat => "Invalid preceding regular expression"
  | tooDeep => "Regular expression too big"

/-- How expressions are written. -/
structure Style where
  isExtended : Bool
  ignoresCase : Bool
  deriving DecidableEq

/-- The octet of a character. -/
def octet (c : Char) : UInt8 := UInt8.ofNat c.toNat

/-- The ranges of a named class. -/
def classRanges? : String → Option (List (UInt8 × UInt8))
  | "alpha" => some [(65, 90), (97, 122)]
  | "digit" => some [(48, 57)]
  | "alnum" => some [(48, 57), (65, 90), (97, 122)]
  | "upper" => some [(65, 90)]
  | "lower" => some [(97, 122)]
  | "space" => some [(9, 13), (32, 32)]
  | "blank" => some [(9, 9), (32, 32)]
  | "punct" => some [(33, 47), (58, 64), (91, 96), (123, 126)]
  | "print" => some [(32, 126)]
  | "graph" => some [(33, 126)]
  | "cntrl" => some [(0, 31), (127, 127)]
  | "xdigit" => some [(48, 57), (65, 70), (97, 102)]
  | _ => none

/-- Ranges with the letters of the other case. -/
def withBothCases (ranges : List (UInt8 × UInt8)) : List (UInt8 × UInt8) :=
  let clip (low high : UInt8) (r : UInt8 × UInt8) : List (UInt8 × UInt8) :=
    let a := if r.1 < low then low else r.1
    let b := if high < r.2 then high else r.2
    if a ≤ b then [(a, b)] else []
  ranges ++ (ranges.flatMap fun r => (clip 65 90 r).map fun (a, b) => (a + 32, b + 32)) ++
    ranges.flatMap fun r => (clip 97 122 r).map fun (a, b) => (a - 32, b - 32)

/-- An expression for one octet out of some ranges. -/
def anyOf (style : Style) (isNegated : Bool) (ranges : List (UInt8 × UInt8)) : Regex :=
  .one ⟨if style.ignoresCase then withBothCases ranges else ranges, isNegated⟩

/-- An expression for one character. -/
def plain (style : Style) (c : Char) : Regex := anyOf style false [(octet c, octet c)]

/-- The octets of words, as ranges. -/
def wordRanges : List (UInt8 × UInt8) := [(48, 57), (65, 90), (95, 95), (97, 122)]

/-- The members of a set in brackets, up to its closing one. -/
def readMembers (fuel : Nat) (isFirst : Bool) (cs : List Char) :
    Except Fault (List (UInt8 × UInt8) × List Char) :=
  match fuel with
  | 0 => .error .openBracket
  | fuel + 1 =>
    let more (r : List (UInt8 × UInt8)) (rest : List Char) :
        Except Fault (List (UInt8 × UInt8) × List Char) :=
      (readMembers fuel false rest).map fun (rs, rest) => (r ++ rs, rest)
    match cs with
    | [] => .error .openBracket
    | ']' :: rest =>
      if !isFirst then .ok ([], rest)
      else
        match rest with
        | '-' :: b :: after =>
          if b ≠ ']' then
            if octet b < 93 then .error .badRange else more [(93, octet b)] after
          else more [(93, 93)] rest
        | _ => more [(93, 93)] rest
    | '[' :: ':' :: rest =>
      let name := rest.takeWhile (· ≠ ':')
      match rest.drop name.length with
      | ':' :: ']' :: rest =>
        match classRanges? (String.ofList name) with
        | some ranges => more ranges rest
        | none => .error .badClass
      | _ => .error .openBracket
    | '[' :: '.' :: c :: '.' :: ']' :: rest => more [(octet c, octet c)] rest
    | '[' :: '=' :: c :: '=' :: ']' :: rest => more [(octet c, octet c)] rest
    | a :: '-' :: b :: rest =>
      if b = ']' then more [(octet a, octet a)] ('-' :: b :: rest)
      else if octet b < octet a then .error .badRange
      else more [(octet a, octet b)] rest
    | a :: rest => more [(octet a, octet a)] rest

/-- A set in brackets, after the opening one. -/
def readBracket (style : Style) (cs : List Char) : Except Fault (Regex × List Char) :=
  let (isNegated, cs) := match cs with
    | '^' :: cs => (true, cs)
    | cs => (false, cs)
  (readMembers (cs.length + 1) true cs).map fun (ranges, rest) =>
    (anyOf style isNegated ranges, rest)

/-- The bounds of a repetition after the opening brace, and what follows the closing one. -/
def readBounds (style : Style) (cs : List Char) :
    Except Fault ((Nat × Option Nat) × List Char) :=
  let low := cs.takeWhile Char.isDigit
  let rest := cs.drop low.length
  let close (low : Nat) (high : Option Nat) (cs : List Char) :
      Except Fault ((Nat × Option Nat) × List Char) :=
    if high.any (· < low) then .error .badBrace
    else
      match style.isExtended, cs with
      | true, '\x7d' :: rest => .ok ((low, high), rest)
      | false, '\\' :: '\x7d' :: rest => .ok ((low, high), rest)
      | _, [] => .error .openBrace
      | _, _ => .error .badBrace
  match rest with
  | ',' :: rest =>
    let high := rest.takeWhile Char.isDigit
    close (valueIn 10 low) (if high.isEmpty then none else some (valueIn 10 high))
      (rest.drop high.length)
  | rest =>
    if low.isEmpty then .error (if rest.isEmpty then .openBrace else .badBrace)
    else close (valueIn 10 low) (some (valueIn 10 low)) rest

/-- What an escape stands for outside of operators. -/
def escape (style : Style) (c : Char) : Regex :=
  match c with
  | 'w' => .one ⟨wordRanges, false⟩
  | 'W' => .one ⟨wordRanges, true⟩
  | 's' => .one ⟨[(9, 13), (32, 32)], false⟩
  | 'S' => .one ⟨[(9, 13), (32, 32)], true⟩
  | 'b' => .spot .wordEdge
  | 'B' => .spot .noEdge
  | '<' => .spot .wordStart
  | '>' => .spot .wordEnd
  | '\x60' => .spot .start
  | '\'' => .spot .finish
  | c => plain style c

/-- How often the expression before an operator is repeated, and what follows the operator. -/
def readRepetition (style : Style) (cs : List Char) :
    Except Fault (Option ((Nat × Option Nat) × List Char)) :=
  match style.isExtended, cs with
  | _, '*' :: rest => .ok (some ((0, none), rest))
  | true, '+' :: rest => .ok (some ((1, none), rest))
  | true, '?' :: rest => .ok (some ((0, some 1), rest))
  | true, '\x7b' :: rest =>
    if rest.head?.any fun c => c.isDigit || c = ',' then (readBounds style rest).map some
    else .ok none
  | false, '\\' :: '+' :: rest => .ok (some ((1, none), rest))
  | false, '\\' :: '?' :: rest => .ok (some ((0, some 1), rest))
  | false, '\\' :: '\x7b' :: rest => (readBounds style rest).map some
  | _, _ => .ok none

/-- Put all the repetitions that follow on an expression. -/
def readRepetitions (style : Style) (fuel : Nat) (r : Regex) (cs : List Char) :
    Except Fault (Regex × List Char) :=
  match fuel with
  | 0 => .ok (r, cs)
  | fuel + 1 =>
    match readRepetition style cs with
    | .error e => .error e
    | .ok none => .ok (r, cs)
    | .ok (some ((low, high), rest)) => readRepetitions style fuel (.repeated r low high) rest

/-- Whether a text goes on with a bar between alternatives. -/
def dropBar? (style : Style) (cs : List Char) : Option (List Char) :=
  match style.isExtended, cs with
  | true, '|' :: rest => some rest
  | false, '\\' :: '|' :: rest => some rest
  | _, _ => none

/-- Whether a text goes on with the end of a group. -/
def dropClose? (style : Style) (cs : List Char) : Option (List Char) :=
  match style.isExtended, cs with
  | true, ')' :: rest => some rest
  | false, '\\' :: ')' :: rest => some rest
  | _, _ => none

/-- Whether a text goes on with the start of a group. -/
def dropOpen? (style : Style) (cs : List Char) : Option (List Char) :=
  match style.isExtended, cs with
  | true, '(' :: rest => some rest
  | false, '\\' :: '(' :: rest => some rest
  | _, _ => none

/-- An expression that was read, how many groups there are by then, and the text that is left. -/
abbrev ReadRegex := Regex × Nat × List Char

mutual

/-- Alternatives, up to the end of a group or of the text. -/
def readEither (style : Style) (fuel : Nat) (depth groups : Nat) (cs : List Char) :
    Except Fault ReadRegex :=
  match fuel with
  | 0 => .error .tooDeep
  | fuel + 1 => do
    let (left, groups, rest) ← readSeq style fuel depth groups true cs
    match dropBar? style rest with
    | some rest =>
      let (right, groups, rest) ← readEither style fuel depth groups rest
      return (.either left right, groups, rest)
    | none => return (left, groups, rest)

/-- Expressions one after the other.  `isFirst` says that nothing stands before them. -/
def readSeq (style : Style) (fuel : Nat) (depth groups : Nat) (isFirst : Bool)
    (cs : List Char) : Except Fault ReadRegex :=
  match fuel with
  | 0 => .error .tooDeep
  | fuel + 1 => do
    let isEnd := cs.isEmpty || (dropBar? style cs).isSome ||
      ((dropClose? style cs).isSome && (0 < depth || !style.isExtended))
    if isEnd then return (.empty, groups, cs)
    else
      let (first, groups, rest) ← readAtom style fuel depth groups isFirst cs
      let anchored := match first with
        | .spot .start => !style.isExtended
        | _ => false
      -- An asterisk at the start of a basic expression stands for itself.
      let (first, rest) ← if anchored then pure (first, rest)
        else readRepetitions style (rest.length + 1) first rest
      let (others, groups, rest) ← readSeq style fuel depth groups false rest
      return (.seq first others, groups, rest)

/-- One expression without a repetition. -/
def readAtom (style : Style) (fuel : Nat) (depth groups : Nat) (isFirst : Bool)
    (cs : List Char) : Except Fault ReadRegex :=
  match fuel with
  | 0 => .error .tooDeep
  | fuel + 1 =>
    match dropOpen? style cs with
    | some rest => do
      let n := groups + 1
      let (body, groups, rest) ← readEither style fuel (depth + 1) n rest
      match dropClose? style rest with
      | some rest => return (.group n body, groups, rest)
      | none => .error .openGroup
    | none =>
      match cs with
      | [] => .ok (.empty, groups, [])
      | '[' :: rest => (readBracket style rest).map fun (r, rest) => (r, groups, rest)
      | '.' :: rest => .ok (.one ⟨[], true⟩, groups, rest)
      | '^' :: rest =>
        if style.isExtended || isFirst then .ok (.spot .start, groups, rest)
        else .ok (plain style '^', groups, rest)
      | '$' :: rest =>
        let atEnd := rest.isEmpty || (dropBar? style rest).isSome || (dropClose? style rest).isSome
        if style.isExtended || atEnd then .ok (.spot .finish, groups, rest)
        else .ok (plain style '$', groups, rest)
      | ['\\'] => .error .trailingBackslash
      | '\\' :: c :: rest =>
        if '1' ≤ c && c ≤ '9' then
          let n := c.toNat - 48
          if n ≤ groups then .ok (.back n, groups, rest) else .error .badReference
        else if c = 'n' then .ok (plain style '\n', groups, rest)
        else if c = 't' then .ok (plain style '\t', groups, rest)
        else .ok (escape style c, groups, rest)
      | c :: rest =>
        if style.isExtended && c = '*' && isFirst then .ok (.empty, groups, rest)
        else if style.isExtended && (c = '+' || c = '?') && isFirst then .ok (.empty, groups, rest)
        else .ok (plain style c, groups, rest)

end

/-- Read an expression. -/
def ofText (style : Style) (text : List Char) : Except Fault Regex := do
  let (r, _, rest) ← readEither style (4 * text.length + 8) 0 0 text
  if rest.isEmpty then return r else .error .closedGroup

/-- An expression for a text that stands for itself. -/
def ofPlain (style : Style) (text : List Char) : Regex :=
  text.foldr (fun c r => .seq (plain style c) r) .empty

end Outflow.Regex
