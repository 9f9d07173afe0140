import Outflow.Text.Bytes

/-!
# Regular expressions

Expressions over octets, with groups and references back to them.  `Regex.ends` gives every
place where a match that starts at a place can end, and `Regex.find?` the match that starts
first and, of those, the longest one.
-/

namespace Outflow

/-- A set of octets, by ranges. -/
structure OctetClass where
  ranges : List (UInt8 × UInt8)
  isNegated : Bool
  deriving DecidableEq, Repr

/-- Whether an octet is in a set. -/
def OctetClass.has (c : OctetClass) (b : UInt8) : Bool :=
  (c.ranges.any fun (low, high) => low ≤ b && b ≤ high) != c.isNegated

/-- A place that an expression can ask for without taking anything. -/
inductive RegexSpot where
  | start
  | finish
  | wordStart
  | wordEnd
  | wordEdge
  | noEdge
  /-- No word goes on from before. -/
  | noWordBefore
  | noWordAfter
  deriving DecidableEq, Repr

/-- A regular expression. -/
inductive Regex where
  | empty
  | one (c : OctetClass)
  | spot (s : RegexSpot)
  | group (n : Nat) (body : Regex)
  /-- What a group took. -/
  | back (n : Nat)
  | seq (a b : Regex)
  | either (a b : Regex)
  | repeated (body : Regex) (low : Nat) (high : Option Nat)
  deriving Repr

namespace Regex

/-- A place in a text. -/
structure Place where
  before : Option UInt8
  rest : Bytes
  deriving DecidableEq

/-- A place that a match has come to, and what the groups took so far. -/
structure Reached where
  place : Place
  groups : List (Nat × Bytes)

/-- What a group took. -/
def Reached.group? (r : Reached) (n : Nat) : Option Bytes := (r.groups.find? (·.1 = n)).map (·.2)

/-- Go on by so many octets. -/
def Place.advance (p : Place) (n : Nat) : Place :=
  if n = 0 then p else ⟨p.rest[n - 1]?, p.rest.drop n⟩

/-- Whether an octet belongs to words. -/
def isWordOctet (b : UInt8) : Bool := (Char.ofNat b.toNat).isAlphanum || b = 95

/-- Whether a place is one that is asked for. -/
def Place.isAt (p : Place) (s : RegexSpot) : Bool :=
  let left := p.before.any isWordOctet
  let right := p.rest.head?.any isWordOctet
  match s with
  | .start => p.before.isNone
  | .finish => p.rest.isEmpty
  | .wordStart => !left && right
  | .wordEnd => left && !right
  | .wordEdge => left != right
  | .noEdge => left == right
  | .noWordBefore => !left
  | .noWordAfter => !right

/-- Whether any part refers back to a group. -/
def refersBack : Regex → Bool
  | back _ => true
  | group _ body => refersBack body
  | seq a b => refersBack a || refersBack b
  | either a b => refersBack a || refersBack b
  | repeated body _ _ => refersBack body
  | _ => false

/-- Whether two places that were reached make no difference for what follows. -/
def same (exact : Bool) (a b : Reached) : Bool :=
  a.place.rest.length == b.place.rest.length && (!exact || a.groups == b.groups)

/-- Those of some places that differ, the first of each kind. -/
def distinct (exact : Bool) (rs : List Reached) : List Reached :=
  rs.foldl (fun kept r => if kept.any (same exact r) then kept else kept ++ [r]) []

/-- The places where the longest matches end first. -/
def longestFirst (rs : List Reached) : List Reached :=
  rs.mergeSort fun a b => a.place.rest.length ≤ b.place.rest.length

/-- All that is reached by taking steps again and again: at least `low` of them and at most
`high`.  `now` is what the last step reached. -/
def repeatSteps (exact : Bool) (step : Reached → List Reached) (fuel low : Nat)
    (high : Option Nat) (now found : List Reached) : List Reached :=
  let found := if low = 0 then distinct exact (found ++ now) else found
  match fuel with
  | 0 => found
  | fuel + 1 =>
    if now.isEmpty || high = some 0 then found
    else
      let next := distinct exact (now.flatMap step)
      -- A place that was found before leads to nothing new.
      let fresh := if low = 0 then next.filter fun r => !found.any (same exact r) else next
      repeatSteps exact step fuel (low - 1) (high.map (· - 1)) fresh found

/-- Every place that a match can come to. -/
def ends (exact : Bool) (r : Regex) (from' : Reached) : List Reached :=
  match r with
  | empty => [from']
  | one c =>
    match from'.place.rest with
    | b :: _ => if c.has b then [{ from' with place := from'.place.advance 1 }] else []
    | [] => []
  | spot s => if from'.place.isAt s then [from'] else []
  | group n body =>
    (ends exact body from').map fun r =>
      let taken := from'.place.rest.take (from'.place.rest.length - r.place.rest.length)
      { r with groups := (n, taken) :: r.groups.filter (·.1 ≠ n) }
  | back n =>
    match from'.group? n with
    | some bytes =>
      if bytes.isPrefixOf from'.place.rest then
        [{ from' with place := from'.place.advance bytes.length }]
      else []
    | none => []
  | seq a b => distinct exact ((longestFirst (ends exact a from')).flatMap (ends exact b))
  | either a b => distinct exact (ends exact a from' ++ ends exact b from')
  | repeated body low high =>
    repeatSteps exact (ends exact body) (low + from'.place.rest.length + 1) low high [from'] []

/-- A match. -/
structure Found where
  before : Bytes
  matched : Bytes
  after : Bytes
  groups : List (Nat × Bytes)

/-- The longest match that starts at a place. -/
def matchAt (r : Regex) (p : Place) : Option Reached :=
  (longestFirst (ends r.refersBack r ⟨p, []⟩)).head?

/-- The first match from a place on.  `passed` is what lies before the place, in reverse. -/
def findFrom (r : Regex) (passed : Bytes) (previous : Option UInt8) : Bytes → Option Found
  | [] => (matchAt r ⟨previous, []⟩).map fun m => ⟨passed.reverse, [], [], m.groups⟩
  | b :: rest =>
    match matchAt r ⟨previous, b :: rest⟩ with
    | some m =>
      let taken := (b :: rest).take (rest.length + 1 - m.place.rest.length)
      some ⟨passed.reverse, taken, m.place.rest, m.groups⟩
    | none => findFrom r (b :: passed) (some b) rest

/-- The first match in a text. -/
def find? (r : Regex) (text : Bytes) : Option Found := findFrom r [] none text

/-- Whether a text has a match. -/
def occursIn (r : Regex) (text : Bytes) : Bool := (r.find? text).isSome

end Regex

end Outflow
