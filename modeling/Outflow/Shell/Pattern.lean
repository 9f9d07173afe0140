import Outflow.Regex.Reader

/-!
# Patterns

Patterns over texts: a star fits any text, a question mark any character, and a set in brackets
one of some characters.  A character of a pattern that was quoted stands only for itself.
-/

namespace Outflow.Shell

/-- A character, and whether it stands only for itself. -/
structure Glyph where
  char : Char
  isLiteral : Bool
  deriving DecidableEq, Repr

namespace Pattern

/-- Whether a glyph is a certain special character. -/
def isSpecial (c : Char) (g : Glyph) : Bool := g.char = c && !g.isLiteral

/-- Whether a pattern has any special character. -/
def isSpecialText (p : List Glyph) : Bool :=
  p.any fun g => !g.isLiteral && (g.char = '*' || g.char = '?' || g.char = '[')

/-- A pattern in which a backslash that came from an expansion makes the next character stand
only for itself. -/
def unescape : List Glyph → List Glyph
  | [] => []
  | [g] => [g]
  | g :: h :: rest =>
    if isSpecial '\\' g then ⟨h.char, true⟩ :: unescape rest else g :: unescape (h :: rest)

/-- A class with its name at the start of a set, and what follows it. -/
def takeClass? (p : List Glyph) : Option (List (UInt8 × UInt8) × List Glyph) :=
  match p with
  | open' :: colon :: rest =>
    if isSpecial '[' open' && isSpecial ':' colon then
      let name := (rest.takeWhile fun g => g.char.isAlpha)
      match rest.drop name.length with
      | colon :: close :: rest =>
        if isSpecial ':' colon && isSpecial ']' close then
          (Regex.classRanges? (String.ofList (name.map (·.char)))).map (·, rest)
        else none
      | _ => none
    else none
  | _ => none

/-- The members of a set as ranges, and the pattern after its closing bracket.  A bracket that
comes first is a member.  Fuel is the length of the pattern. -/
def takeSet (fuel : Nat) (first : Bool) (p : List Glyph) :
    Option (List (Char × Char) × List Glyph) :=
  match fuel with
  | 0 => none
  | fuel + 1 =>
    let more (members : List (Char × Char)) (rest : List Glyph) :
        Option (List (Char × Char) × List Glyph) :=
      (takeSet fuel false rest).map fun (others, rest) => (members ++ others, rest)
    match takeClass? p, p with
    | some (ranges, rest), _ =>
      more (ranges.map fun (a, b) => (Char.ofNat a.toNat, Char.ofNat b.toNat)) rest
    | none, [] => none
    | none, a :: rest =>
      if isSpecial ']' a && !first then some ([], rest)
      else
        match rest with
        | hyphen :: b :: after =>
          if isSpecial '-' hyphen && !isSpecial ']' b then more [(a.char, b.char)] after
          else more [(a.char, a.char)] rest
        | _ => more [(a.char, a.char)] rest

/-- Whether a pattern fits all of a text.  Fuel is the length of the pattern and the text
together. -/
def fitsWith (fuel : Nat) (p : List Glyph) (cs : List Char) : Bool :=
  match fuel, p with
  | _, [] => cs.isEmpty
  | 0, _ => false
  | fuel + 1, g :: p =>
    if isSpecial '*' g then
      fitsWith fuel p cs ||
        match cs with
        | [] => false
        | _ :: cs => fitsWith fuel (g :: p) cs
    else
      match cs with
      | [] => false
      | c :: cs =>
        if isSpecial '?' g then fitsWith fuel p cs
        else if isSpecial '[' g then
          let negated := p.head?.any (isSpecial '!')
          match takeSet (p.length + 1) true (if negated then p.drop 1 else p) with
          | none => c = '[' && fitsWith fuel p cs
          | some (members, rest) =>
            (members.any fun (a, b) => a ≤ c && c ≤ b) != negated && fitsWith fuel rest cs
        else g.char = c && fitsWith fuel p cs

/-- Whether a pattern fits all of a text. -/
def fits (p : List Glyph) (cs : List Char) : Bool :=
  fitsWith (p.length + cs.length + 1) (unescape p) cs

/-- Drop the part that a pattern fits, at the front or at the end, as long or as short as it
can be.  A pattern does not look beyond a boundary. -/
def strip (boundary : Char) (front longest : Bool) (p : List Glyph) (cs : List Char) : List Char :=
  let lengths := List.range (cs.length + 1)
  let order := if longest then lengths.reverse else lengths
  let part (n : Nat) : List Char := if front then cs.take n else cs.drop (cs.length - n)
  match order.find? fun n => fits p ((part n).takeWhile (· ≠ boundary)) with
  | none => cs
  | some n => if front then cs.drop n else cs.take (cs.length - n)

end Pattern

end Outflow.Shell
