import Outflow.Text.Bytes

/-!
# Digests

The digests of the families SHA-2, SHA-1 and MD5, and two short sums.  Each of the families cuts
the octets, filled up to whole blocks, into blocks and lets one after the other change some
words; the words are natural numbers below a power of two.  The constants of SHA-2 are the first
binary places of roots of primes, and are computed as such.
-/

namespace Outflow.Digest

/-! ### Words -/

/-- The sum of words of some number of binary digits. -/
def add (bits : Nat) (ws : List Nat) : Nat := ws.foldl (· + ·) 0 % Nat.pow 2 bits

/-- A word turned to the right. -/
def turned (bits n w : Nat) : Nat := (w >>> n ||| w <<< (bits - n)) % Nat.pow 2 bits

/-- A word turned to the left. -/
def turnedLeft (bits n w : Nat) : Nat := turned bits (bits - n) w

/-- A word with every binary digit changed. -/
def flipped (bits w : Nat) : Nat := Nat.pow 2 bits - 1 - w

/-- The word of some octets, the highest first. -/
def wordOf (bytes : Bytes) : Nat := bytes.foldl (fun n b => n * 256 + b.toNat) 0

/-- The octets of a word, the highest first. -/
def octetsOf (size w : Nat) : Bytes :=
  (List.range size).map fun i => UInt8.ofNat (w / Nat.pow 256 (size - 1 - i))

/-- A list cut into parts of one length.  Fuel is the length of the list. -/
def partsOf {α : Type} (size fuel : Nat) (xs : List α) : List (List α) :=
  match fuel with
  | 0 => []
  | fuel + 1 =>
    if xs.isEmpty then [] else xs.take size :: partsOf size fuel (xs.drop size)

/-- Octets filled up to whole blocks: a one, zeros, and their number in binary digits at the
end. -/
def filled (block lengthSize : Nat) (lowFirst : Bool) (bytes : Bytes) : Bytes :=
  let used := (bytes.length + 1 + lengthSize) % block
  let zeros := if used = 0 then 0 else block - used
  let length := octetsOf lengthSize (8 * bytes.length)
  bytes ++ 128 :: List.replicate zeros 0 ++ if lowFirst then length.reverse else length

/-- The blocks of some octets, each as its words. -/
def blocks (size : Nat) (lowFirst : Bool) (bytes : Bytes) : List (List Nat) :=
  let whole := filled (16 * size) (2 * size) lowFirst bytes
  (partsOf (16 * size) whole.length whole).map fun block =>
    (partsOf size block.length block).map fun part =>
      wordOf (if lowFirst then part.reverse else part)

/-! ### Constants -/

/-- Whether a number above one has no divisor but one and itself. -/
def isPrime (n : Nat) : Bool := (List.range n).all fun d => d < 2 || n % d != 0

/-- The first eighty primes. -/
def primes : List Nat := ((List.range 410).drop 2).filter isPrime

/-- The greatest number whose power is not above a number. -/
def root (k n : Nat) : Nat :=
  ((List.range (Nat.log2 n / k + 1)).reverse).foldl
    (fun r i => if Nat.pow (r + Nat.pow 2 i) k ≤ n then r + Nat.pow 2 i else r) 0

/-- The first binary places of a root. -/
def placesOfRoot (k bits n : Nat) : Nat :=
  root k (n * Nat.pow 2 (k * bits)) % Nat.pow 2 bits

/-! ### SHA-2 -/

/-- One of the digests of the family. -/
structure Sha2 where
  /-- The binary digits of a word. -/
  bits : Nat
  rounds : Nat
  /-- The words before the first block. -/
  start : List Nat
  /-- How far words are turned, in four places. -/
  turns : (Nat × Nat × Nat) × (Nat × Nat × Nat) × (Nat × Nat × Nat) × (Nat × Nat × Nat)
  /-- How many octets of the last words are the digest. -/
  size : Nat

namespace Sha2

/-- A word turned three times, and the results put together. -/
def mixed (bits : Nat) (turns : Nat × Nat × Nat) (w : Nat) : Nat :=
  turned bits turns.1 w ^^^ turned bits turns.2.1 w ^^^ turned bits turns.2.2 w

/-- A word turned twice and shifted once, and the results put together. -/
def blended (bits : Nat) (turns : Nat × Nat × Nat) (w : Nat) : Nat :=
  turned bits turns.1 w ^^^ turned bits turns.2.1 w ^^^ w >>> turns.2.2

/-- The words of all rounds: those of the block, and each further one from four before it. -/
def schedule (h : Sha2) (block : List Nat) : Array Nat :=
  let (_, _, first, second) := h.turns
  (List.range (h.rounds - 16)).foldl
    (fun ws _ =>
      let word (back : Nat) : Nat := ws.getD (ws.size - back) 0
      ws.push (add h.bits
        [blended h.bits second (word 2), word 7, blended h.bits first (word 15), word 16]))
    block.toArray

/-- One round. -/
def round (h : Sha2) (state : List Nat) (wk : Nat × Nat) : List Nat :=
  match state with
  | [a, b, c, d, e, f, g, i] =>
    let (first, second, _) := h.turns
    let choice := (e &&& f) ^^^ (flipped h.bits e &&& g)
    let majority := (a &&& b) ^^^ (a &&& c) ^^^ (b &&& c)
    let t := add h.bits [i, mixed h.bits second e, choice, wk.2, wk.1]
    [add h.bits [t, mixed h.bits first a, majority], a, b, c, add h.bits [d, t], e, f, g]
  | state => state

/-- The digest of some octets. -/
def digest (h : Sha2) (bytes : Bytes) : Bytes :=
  let constants := (primes.take h.rounds).map (placesOfRoot 3 h.bits)
  let step (state block : List Nat) : List Nat :=
    let last := ((h.schedule block).toList.zip constants).foldl h.round state
    (state.zip last).map fun (a, b) => add h.bits [a, b]
  let words := (blocks (h.bits / 8) false bytes).foldl step h.start
  (words.flatMap (octetsOf (h.bits / 8))).take h.size

/-- The first words of a digest: places of the square roots of eight primes. -/
def startFrom (bits : Nat) (ps : List Nat) : List Nat := ps.map (placesOfRoot 2 bits)

/-- The digest of 256 binary digits. -/
def sha256 : Sha2 :=
  { bits := 32, rounds := 64, start := startFrom 32 (primes.take 8), size := 32
    turns := ((2, 13, 22), (6, 11, 25), (7, 18, 3), (17, 19, 10)) }

/-- The digest of 224 binary digits. -/
def sha224 : Sha2 :=
  { sha256 with
    start := (startFrom 64 ((primes.drop 8).take 8)).map (· % Nat.pow 2 32), size := 28 }

/-- The digest of 512 binary digits. -/
def sha512 : Sha2 :=
  { bits := 64, rounds := 80, start := startFrom 64 (primes.take 8), size := 64
    turns := ((28, 34, 39), (14, 18, 41), (1, 8, 7), (19, 61, 6)) }

/-- The digest of 384 binary digits. -/
def sha384 : Sha2 :=
  { sha512 with start := startFrom 64 ((primes.drop 8).take 8), size := 48 }

end Sha2

/-! ### SHA-1 -/

/-- The words of all rounds of SHA-1. -/
def schedule1 (block : List Nat) : Array Nat :=
  (List.range 64).foldl
    (fun ws _ =>
      let word (back : Nat) : Nat := ws.getD (ws.size - back) 0
      ws.push (turnedLeft 32 1 (word 3 ^^^ word 8 ^^^ word 14 ^^^ word 16)))
    block.toArray

/-- One round of SHA-1. -/
def round1 (state : List Nat) (wi : Nat × Nat) : List Nat :=
  match state with
  | [a, b, c, d, e] =>
    let (w, i) := wi
    let (f, k) :=
      if i < 20 then ((b &&& c) ||| (flipped 32 b &&& d), 0x5a827999)
      else if i < 40 then (b ^^^ c ^^^ d, 0x6ed9eba1)
      else if i < 60 then ((b &&& c) ||| (b &&& d) ||| (c &&& d), 0x8f1bbcdc)
      else (b ^^^ c ^^^ d, 0xca62c1d6)
    [add 32 [turnedLeft 32 5 a, f, e, k, w], a, turnedLeft 32 30 b, c, d]
  | state => state

/-- The words that SHA-1 begins with. -/
def start1 : List Nat := [0x67452301, 0xefcdab89, 0x98badcfe, 0x10325476, 0xc3d2e1f0]

/-- The digest SHA-1. -/
def sha1 (bytes : Bytes) : Bytes :=
  let whole := filled 64 8 false bytes
  let step (state : List Nat) (part : Bytes) : List Nat :=
    let block := (partsOf 4 part.length part).map wordOf
    let last := ((schedule1 block).toList.zip (List.range 80)).foldl round1 state
    (state.zip last).map fun (a, b) => add 32 [a, b]
  ((partsOf 64 whole.length whole).foldl step start1).flatMap (octetsOf 4)

/-! ### MD5 -/

/-- The first binary places of the sines of the first numbers. -/
def sines : List Nat :=
  (List.range 64).map fun i => ((Float.ofNat (i + 1)).sin.abs * 4294967296).toUInt64.toNat

/-- How far the words of a round are turned, by the quarter and the place in it. -/
def turns5 (i : Nat) : Nat :=
  let rows := [[7, 12, 17, 22], [5, 9, 14, 20], [4, 11, 16, 23], [6, 10, 15, 21]]
  ((rows[i / 16]?).getD []).getD (i % 4) 0

/-- One round of MD5. -/
def round5 (block : Array Nat) (state : List Nat) (ik : Nat × Nat) : List Nat :=
  match state with
  | [a, b, c, d] =>
    let (i, k) := ik
    let (f, place) :=
      if i < 16 then ((b &&& c) ||| (flipped 32 b &&& d), i)
      else if i < 32 then ((d &&& b) ||| (flipped 32 d &&& c), 5 * i + 1)
      else if i < 48 then (b ^^^ c ^^^ d, 3 * i + 5)
      else (c ^^^ (b ||| flipped 32 d), 7 * i)
    let sum := add 32 [a, f, k, block.getD (place % 16) 0]
    [d, add 32 [b, turnedLeft 32 (turns5 i) sum], b, c]
  | state => state

/-- The digest MD5. -/
def md5 (bytes : Bytes) : Bytes :=
  let whole := filled 64 8 true bytes
  let step (state : List Nat) (part : Bytes) : List Nat :=
    let block := (partsOf 4 part.length part).map fun word => wordOf word.reverse
    let last := ((List.range 64).zip sines).foldl (round5 block.toArray) state
    (state.zip last).map fun (a, b) => add 32 [a, b]
  let words := (partsOf 64 whole.length whole).foldl step
    [0x67452301, 0xefcdab89, 0x98badcfe, 0x10325476]
  words.flatMap fun w => (octetsOf 4 w).reverse

/-! ### Short sums -/

/-- The remainder that follows one with another binary digit behind it. -/
def shiftCrc (crc : Nat) : Nat :=
  let next := crc * 2
  if Nat.pow 2 32 ≤ next then (next - Nat.pow 2 32) ^^^ 0x04c11db7 else next

/-- The cyclic redundancy check of octets and their number. -/
def crc (bytes : Bytes) : Nat :=
  let size := (octetsOf 8 bytes.length).dropWhile (· = 0)
  let step (crc : Nat) (b : UInt8) : Nat :=
    (List.range 8).foldl (fun crc _ => shiftCrc crc) (crc ^^^ b.toNat <<< 24)
  flipped 32 ((bytes ++ size.reverse).foldl step 0)

/-- A sum of octets that is turned before each of them. -/
def turningSum (bytes : Bytes) : Nat :=
  bytes.foldl (fun sum b => (sum / 2 + sum % 2 * 32768 + b.toNat) % 65536) 0

/-- A plain sum of octets, its upper part added to the lower one. -/
def plainSum (bytes : Bytes) : Nat :=
  let total := bytes.foldl (fun sum b => sum + b.toNat) 0 % Nat.pow 2 32
  let folded := total % 65536 + total / 65536
  folded % 65536 + folded / 65536

/-- Octets as pairs of hexadecimal digits. -/
def hexText (bytes : Bytes) : String :=
  String.ofList (bytes.flatMap fun b =>
    [Nat.digitChar (b.toNat / 16), Nat.digitChar (b.toNat % 16)])

end Outflow.Digest
