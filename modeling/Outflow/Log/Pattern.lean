import Outflow.Text.Blank
import Outflow.Text.Letter

/-!
# Patterns for the values of fields

A directive may ask that the value of a field is a certain number or fits a pattern.  Whether a
text is one of the two decides whether a filter can be used at all; `LogPattern.isValid` tells.

Patterns are over characters.  Without tables of their properties a pattern cannot ignore case,
name a class by one letter or ask for the edge of a word, except where it is told to look at
single octets.  There a pattern must not fit what is no text, so all octets it names are ASCII.
The text of a pattern has no closing brace, since that ends the field: no repetition can be
counted, and no code point written in braces.
-/

namespace Outflow.LogPattern

/-- What the letters in front of a pattern or a group switch. -/
structure Flags where
  ignoresCase : Bool
  /-- Whether blanks and comments are passed over. -/
  isSpaced : Bool
  /-- Whether characters are looked at, and not octets. -/
  isUnicode : Bool
  deriving DecidableEq

/-- How deep the parts of a pattern may be nested. -/
def maxDepth : Nat := 250

/-- Pass over blanks and comments, where they mean nothing. -/
def skip (f : Flags) (inComment : Bool) : List Char → List Char
  | [] => []
  | c :: cs =>
    if !f.isSpaced then c :: cs
    else if inComment then skip f (c ≠ '\n') cs
    else if Text.isBlank c then skip f false cs
    else if c = '#' then skip f true cs
    else c :: cs

/-- Passing over blanks leaves no more than there was. -/
theorem length_skip_le (f : Flags) (inComment : Bool) (cs : List Char) :
    (skip f inComment cs).length ≤ cs.length := by
  induction cs generalizing inComment with
  | nil => simp [skip]
  | cons c cs ih =>
    simp only [skip]
    split
    · simp
    · split
      · exact Nat.le_succ_of_le (ih _)
      · split
        · exact Nat.le_succ_of_le (ih _)
        · split
          · exact Nat.le_succ_of_le (ih _)
          · simp

/-- How deep parts side by side are. -/
def joinedDepth : List Nat → Nat
  | [] => 0
  | [depth] => depth
  | depths => 1 + depths.foldl max 0

/-! ### Characters -/

/-- What a backslash and its letter stand for. -/
inductive Escape where
  /-- A character, which may have been given as an octet. -/
  | literal (c : Char) (isOctet : Bool)
  | members (isNegated : Bool)
  | place
  deriving DecidableEq

/-- The punctuation that means something in a pattern. -/
def metaChars : List Char := "\\.+*?()|[]\x7b\x7d^$#&-~".toList

/-- Whether a backslash in front of a character takes its meaning away. -/
def isPlainEscape (c : Char) : Bool :=
  metaChars.contains c || (c.toNat < 128 && !c.isAlphanum && c ≠ '<' && c ≠ '>')

/-- The value of a hexadecimal digit. -/
def hexDigit? (c : Char) : Option Nat :=
  if c.isDigit then some (c.toNat - 48)
  else if 'a' ≤ c && c ≤ 'f' then some (c.toNat - 87)
  else if 'A' ≤ c && c ≤ 'F' then some (c.toNat - 55)
  else none

/-- A character by its code point in so many hexadecimal digits. -/
def readCodePoint (width : Nat) (isOctet : Bool) (cs : List Char) :
    Option (Escape × List Char) := do
  let digits ← (cs.take width).mapM hexDigit?
  let n := digits.foldl (fun n d => 16 * n + d) 0
  if digits.length = width && n.isValidChar then
    some (.literal (Char.ofNat n) isOctet, cs.drop width)
  else none

/-- What follows a backslash. -/
def readEscape (f : Flags) : List Char → Option (Escape × List Char)
  | [] => none
  | 'x' :: cs => readCodePoint 2 true cs
  | 'u' :: cs => readCodePoint 4 false cs
  | 'U' :: cs => readCodePoint 8 false cs
  | c :: cs =>
    let edge : Option (Escape × List Char) := if f.isUnicode then none else some (.place, cs)
    if isPlainEscape c then some (.literal c false, cs)
    else if ['a', 'f', 't', 'n', 'r', 'v'].contains c then some (.literal '\t' false, cs)
    else if ['A', 'z'].contains c then some (.place, cs)
    else if ['d', 's', 'w'].contains c then some (.members false, cs)
    else if ['D', 'S', 'W'].contains c then some (.members true, cs)
    else if ['b', 'B', '<', '>'].contains c then edge
    else none

/-- Whether a character can be looked for. -/
def fitsLiteral (f : Flags) (c : Char) (isOctet : Bool) : Bool :=
  if f.isUnicode then !f.ignoresCase else !isOctet || c.toNat < 128

/-- Whether a class by one letter can be looked for. -/
def fitsMembers (f : Flags) (isNegated : Bool) : Bool := !f.isUnicode && !isNegated

/-! ### Sets in brackets -/

/-- The classes by name that a set may hold in brackets of their own. -/
def classNames : List String :=
  ["alnum", "alpha", "ascii", "blank", "cntrl", "digit", "graph", "lower", "print", "punct",
   "space", "upper", "word", "xdigit"]

/-- A class by name after its opening bracket: whether it is negated, and what follows it. -/
def readNamed? (cs : List Char) : Option (Bool × List Char) :=
  match cs with
  | ':' :: cs =>
    let (isNegated, cs) := match cs with
      | '^' :: cs => (true, cs)
      | cs => (false, cs)
    let name := cs.takeWhile (· ≠ ':')
    match cs.drop name.length with
    | ':' :: ']' :: rest =>
      if classNames.contains (String.ofList name) then some (isNegated, rest) else none
    | _ => none
  | _ => none

/-- One member of a set. -/
def readMember (f : Flags) : List Char → Option (Escape × List Char)
  | [] => none
  | '\\' :: cs => readEscape f cs
  | c :: cs => some (.literal c false, cs)

/-- Whether a member can be in a set. -/
def fitsSet (f : Flags) : Escape → Bool
  | .literal c _ => f.isUnicode || c.toNat < 128
  | .members isNegated => fitsMembers f isNegated
  | .place => false

/-- One member of a set, or two with all between them. -/
def readRange (f : Flags) (cs : List Char) : Option (List Char) := do
  let (first, rest) ← readMember f cs
  let rest := skip f false rest
  match rest with
  | [] => none
  | c :: more =>
    let more := skip f false more
    if c ≠ '-' || more.head? = some ']' || more.head? = some '-' then
      if fitsSet f first then some rest else none
    else
      let (second, rest) ← readMember f more
      match first, second with
      | .literal a _, .literal b _ =>
        if a ≤ b && fitsSet f first && fitsSet f second then some rest else none
      | _, _ => none

/-- The hyphens that a set begins with, which stand for themselves, and then a closing bracket
if there were none. -/
def skipFirstMembers (f : Flags) (seen : Bool) : List Char → Bool × List Char
  | '-' :: cs => skipFirstMembers f true (skip f false cs)
  | ']' :: cs => if seen then (true, ']' :: cs) else (true, skip f false cs)
  | cs => (seen, cs)
termination_by cs => cs.length
decreasing_by exact Nat.lt_succ_of_le (length_skip_le f false cs)

mutual

/-- A set after its opening bracket: how deep it is nested, and what follows it. -/
def readSet (f : Flags) (fuel : Nat) (cs : List Char) : Option (Nat × List Char) :=
  match fuel with
  | 0 => none
  | fuel + 1 =>
    let (isNegated, cs) := match skip f false cs with
      | '^' :: cs => (true, skip f false cs)
      | cs => (false, cs)
    if (isNegated && !f.isUnicode) || (f.ignoresCase && f.isUnicode) then none
    else
      let (hasMembers, cs) := skipFirstMembers f false cs
      (readMembers f fuel (if hasMembers then [0] else []) cs).map fun (d, cs) => (d + 1, cs)

/-- The rest of a set.  `depths` are those of the members that were read. -/
def readMembers (f : Flags) (fuel : Nat) (depths : List Nat) (cs : List Char) :
    Option (Nat × List Char) :=
  match fuel with
  | 0 => none
  | fuel + 1 =>
    let combined (cs : List Char) : Option (Nat × List Char) :=
      (readMembers f fuel [] cs).map fun (d, cs) => (1 + max d (joinedDepth depths), cs)
    match skip f false cs with
    | [] => none
    | ']' :: cs => some (joinedDepth depths, cs)
    | '&' :: '&' :: cs => combined cs
    | '-' :: '-' :: cs => combined cs
    | '~' :: '~' :: cs => combined cs
    | '[' :: cs =>
      match readNamed? cs with
      | some (isNegated, cs) =>
        if isNegated && !f.isUnicode then none else readMembers f fuel (0 :: depths) cs
      | none => do
        let (d, cs) ← readSet f fuel cs
        readMembers f fuel (d :: depths) cs
    | cs => do readMembers f fuel (0 :: depths) (← readRange f cs)

end

/-! ### Groups -/

/-- The letters that switch something, up to the colon or parenthesis after them.  `seen` are
those that were read, with a hyphen where they begin to switch off. -/
def readFlags (f : Flags) (seen : List Char) : List Char → Option (Flags × List Char × List Char)
  | [] => none
  | c :: cs =>
    if c = ':' || c = ')' then
      if seen.head? = some '-' then none else some (f, seen, c :: cs)
    else if seen.contains c || !"-imsUuRx".toList.contains c then none
    else
      let isOn := !seen.contains '-'
      let f := match c with
        | 'i' => { f with ignoresCase := isOn }
        | 'x' => { f with isSpaced := isOn }
        | 'u' => { f with isUnicode := isOn }
        | _ => f
      readFlags f (c :: seen) cs

/-- The name of a group after its opening angle bracket. -/
def readName? (cs : List Char) : Option (String × List Char) :=
  let name := cs.takeWhile (· ≠ '>')
  let isFirst (c : Char) : Bool := c = '_' || (Text.isLetterOrDigit c && !c.isDigit)
  let isLater (c : Char) : Bool := ['_', '.', '[', ']'].contains c || Text.isLetterOrDigit c
  match cs.drop name.length with
  | '>' :: rest =>
    if name.head?.any isFirst && name.all isLater then some (String.ofList name, rest) else none
  | _ => none

/-- What a pattern has been read to. -/
structure Reached where
  depth : Nat
  /-- The names of the groups. -/
  names : List String
  rest : List Char

/-- Read the alternatives of a group up to its end, or of the whole pattern.  `branches` are the
depths of those that were read, and `parts` those of the parts of the present one, the last part
first, each with whether it can be repeated. -/
def readBranches (fuel : Nat) (f : Flags) (inGroup : Bool) (names : List String)
    (branches : List Nat) (parts : List (Nat × Bool)) (cs : List Char) : Option Reached :=
  match fuel with
  | 0 => none
  | fuel + 1 =>
    let depth := joinedDepth (joinedDepth (parts.map (·.1)) :: branches)
    let next (part : Nat × Bool) (cs : List Char) : Option Reached :=
      readBranches fuel f inGroup names branches (part :: parts) cs
    let literal (c : Char) (isOctet : Bool) (cs : List Char) : Option Reached :=
      if fitsLiteral f c isOctet then next (0, true) cs else none
    let group (inner : Flags) (names : List String) (cs : List Char) : Option Reached := do
      let r ← readBranches fuel inner true names [] [] cs
      if maxDepth ≤ r.depth then none
      else
        readBranches fuel f inGroup r.names branches ((r.depth + 1, true) :: parts) r.rest
    match skip f false cs with
    | [] => if inGroup || maxDepth < depth then none else some ⟨depth, names, []⟩
    | ')' :: cs => if inGroup then some ⟨depth, names, cs⟩ else none
    | '|' :: cs =>
      readBranches fuel f inGroup names (joinedDepth (parts.map (·.1)) :: branches) [] cs
    | '(' :: cs =>
      match skip f false cs with
      | '?' :: '=' :: _ => none
      | '?' :: '!' :: _ => none
      | '?' :: '<' :: '=' :: _ => none
      | '?' :: '<' :: '!' :: _ => none
      | '?' :: 'P' :: '<' :: cs => do
        let (name, cs) ← readName? cs
        if names.contains name then none else group f (name :: names) cs
      | '?' :: '<' :: cs => do
        let (name, cs) ← readName? cs
        if names.contains name then none else group f (name :: names) cs
      | '?' :: cs =>
        match readFlags f [] cs with
        | some (inner, _, ':' :: cs) => group inner names cs
        | some (inner, _ :: _, ')' :: cs) =>
          readBranches fuel inner inGroup names branches ((0, false) :: parts) cs
        | _ => none
      | cs => group f names cs
    | '[' :: cs => do
      let (d, cs) ← readSet f fuel cs
      next (d, true) cs
    | '\\' :: cs => do
      let (e, cs) ← readEscape f cs
      match e with
      | .literal c isOctet => literal c isOctet cs
      | .members isNegated => if fitsMembers f isNegated then next (0, true) cs else none
      | .place => next (0, true) cs
    | '.' :: cs => if f.isUnicode then next (0, true) cs else none
    | '^' :: cs => next (0, true) cs
    | '$' :: cs => next (0, true) cs
    | c :: cs =>
      if ['*', '+', '?'].contains c then
        match parts with
        | (d, true) :: more =>
          let cs := match cs with
            | '?' :: cs => cs
            | cs => cs
          readBranches fuel f inGroup names branches ((d + 1, true) :: more) cs
        | _ => none
      else if c = '\x7b' then none
      else literal c false cs

/-- Whether a text is a pattern. -/
def isPattern (cs : List Char) : Bool :=
  (readBranches (2 * cs.length + 2) ⟨false, false, true⟩ false [] [] [] cs).isSome

/-! ### Numbers -/

/-- Whether a text is a number, which may be infinite or none at all. -/
def isNumber (cs : List Char) : Bool :=
  let unsigned := match cs with
    | '+' :: cs => cs
    | '-' :: cs => cs
    | cs => cs
  let lower := String.ofList (unsigned.map Char.toLower)
  let isMark (c : Char) : Bool := c = 'e' || c = 'E'
  let significand := unsigned.takeWhile (!isMark ·)
  let whole := significand.takeWhile (· ≠ '.')
  let fraction := (significand.drop whole.length).drop 1
  let exponent := match unsigned.drop significand.length with
    | [] => true
    | _ :: '+' :: cs => !cs.isEmpty && cs.all Char.isDigit
    | _ :: '-' :: cs => !cs.isEmpty && cs.all Char.isDigit
    | _ :: cs => !cs.isEmpty && cs.all Char.isDigit
  ["inf", "infinity", "nan"].contains lower ||
    (!(whole ++ fraction).isEmpty && (whole ++ fraction).all Char.isDigit && exponent)

/-- Whether the value of a field can be asked to be like a text. -/
def isValid (text : List Char) : Bool := isNumber text || isPattern text

end Outflow.LogPattern
