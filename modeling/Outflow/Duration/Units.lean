import Outflow.Duration
import Outflow.Text.Blank
import Outflow.Text.Numeral

/-!
# Durations written with units

The spelling of durations in settings, such as `1h 30m` or `1.5s`: numbers with units, summed.
A number may have a decimal fraction as long as the fraction of its unit is a whole number of
nanoseconds, or of seconds from hours on.  Blanks may stand inside numbers and between them
and their units.

`Duration.render` writes the canonical spelling, `Duration.ofUnits?` reads any.  Errors carry
the offset in octets of the character they object to.
-/

namespace Outflow

namespace Duration

/-! ### Units -/

/-- A unit of time. -/
inductive TimeUnit where
  | nanosecond | microsecond | millisecond | second | minute | hour | day | week | month | year
  deriving DecidableEq, Repr

namespace TimeUnit

/-- The length of a unit in nanoseconds; a month and a year are the mean ones. -/
def nanos : TimeUnit → Nat
  | nanosecond => 1
  | microsecond => 1000
  | millisecond => 1000000
  | second => 1000000000
  | minute => 60 * 1000000000
  | hour => 3600 * 1000000000
  | day => 86400 * 1000000000
  | week => 604800 * 1000000000
  | month => 2630016 * 1000000000
  | year => 31557600 * 1000000000

/-- The names that a unit goes by. -/
def names : TimeUnit → List String
  | nanosecond => ["nanos", "nsec", "ns"]
  | microsecond => ["usec", "us", "µs"]
  | millisecond => ["millis", "msec", "ms"]
  | second => ["seconds", "second", "secs", "sec", "s"]
  | minute => ["minutes", "minute", "min", "mins", "m"]
  | hour => ["hours", "hour", "hr", "hrs", "h"]
  | day => ["days", "day", "d"]
  | week => ["weeks", "week", "wk", "wks", "w"]
  | month => ["months", "month", "M"]
  | year => ["years", "year", "yr", "yrs", "y"]

/-- Every unit, shortest first. -/
def all : List TimeUnit :=
  [nanosecond, microsecond, millisecond, second, minute, hour, day, week, month, year]

/-- The unit of a name. -/
def ofName? (name : String) : Option TimeUnit := all.find? (·.names.contains name)

/-- The grain in which a number of this unit is counted: whole nanoseconds for the shortest
units, and whole seconds from the second on. -/
def wholeGrain (u : TimeUnit) : Nat := if u.nanos < 1000000000 then 1 else 1000000000

/-- The grain in which a fraction of this unit is counted: whole seconds from the hour on. -/
def fractionGrain (u : TimeUnit) : Nat := if u.nanos < 3600 * 1000000000 then 1 else 1000000000

end TimeUnit

/-! ### Reading -/

/-- Why a text is no duration. -/
inductive UnitsError where
  | empty
  | numberExpected (offset : Nat)
  | invalidCharacter (offset : Nat)
  | unitNeeded (number : Nat)
  | unknownUnit (name : String)
  | overflow
  deriving DecidableEq, Repr

/-- The wording of a duration error. -/
def UnitsError.message : UnitsError → String
  | .empty => "value was empty"
  | .numberExpected offset => s!"expected number at {offset}"
  | .invalidCharacter offset => s!"invalid character at {offset}"
  | .unitNeeded number => s!"time unit needed, for example {number}sec or {number}ms"
  | .unknownUnit name =>
    s!"unknown time unit \"{name}\", supported units: ns, us/µs, ms, sec, min, hours, days, " ++
      "weeks, months, years (and few variations)"
  | .overflow =>
    "number is too large or cannot be represented without a lack of precision " ++
      "(values below 1ns are not supported)"

/-- The largest count that a number, or a number of grains, may reach. -/
def countLimit : Nat := UInt64.size - 1

/-- A count within the limit. -/
def counted (n : Nat) : Except UnitsError Nat := if n ≤ countLimit then .ok n else .error .overflow

/-- The octets of some characters. -/
def octets (cs : List Char) : Nat := cs.foldl (fun n c => n + c.utf8Size) 0

/-- Whether a character may stand inside a number: a digit, or a blank that is skipped. -/
def isNumeric (c : Char) : Bool := (Text.digit? c).isSome || Text.isBlank c

/-- Whether a character may stand in the name of a unit. -/
def isUnitLetter (c : Char) : Bool := ('a' ≤ c && c ≤ 'z') || ('A' ≤ c && c ≤ 'Z') || c = 'µ'

/-- The value of the digits among some characters, continuing `n`. -/
def digitsValue (n : Nat) : List Char → Except UnitsError Nat
  | [] => .ok n
  | c :: cs =>
    match Text.digit? c with
    | none => digitsValue n cs
    | some d => do digitsValue (← counted (n * 10 + d)) cs

/-- One number with its unit. -/
structure Term where
  /-- The digits before the point. -/
  whole : Nat
  /-- The digits after the point and ten to the power of their number. -/
  fraction : Option (Nat × Nat)
  unit : TimeUnit
  deriving DecidableEq, Repr

/-- A count of grains of a unit, added to a total.  Both the count and the nanoseconds that
meet below the second must stay within the limit. -/
def addGrains (total : Duration) (count grain : Nat) : Except UnitsError Duration := do
  let count ← counted count
  if grain = 1 then discard (counted (total.nanos + count))
  match ofNanos? (total.toNanos + count * grain) with
  | some sum => .ok sum
  | none => .error .overflow

/-- Add a term to a total. -/
def addTerm (total : Duration) (term : Term) : Except UnitsError Duration := do
  let grain := term.unit.wholeGrain
  let total ← addGrains total (term.whole * (term.unit.nanos / grain)) grain
  match term.fraction with
  | none => .ok total
  | some (numerator, denominator) =>
    if term.unit = .nanosecond then .error .overflow
    else
      let grain := term.unit.fractionGrain
      let scaled ← counted (numerator * (term.unit.nanos / grain))
      if scaled % denominator = 0 then addGrains total (scaled / denominator) grain
      else .error .overflow

/-- The fraction after a point at offset `point`, with what follows it. -/
def readFraction (point : Nat) (cs : List Char) :
    Except UnitsError ((Nat × Nat) × Nat × List Char) := do
  let span := cs.takeWhile isNumeric
  let rest := cs.dropWhile isNumeric
  let offset := if span.isEmpty then point else point + 1 + octets span
  let numerator ← digitsValue 0 span
  let places := (span.filter fun c => (Text.digit? c).isSome).length
  let denominator ← counted (Nat.pow 10 places)
  if places = 0 || !(rest.head?.all isUnitLetter) then .error (.invalidCharacter offset)
  else .ok ((numerator, denominator), offset, rest)

/-- The rest of a number that has begun with the value `n`, as read from `offset` on: its
whole part, its fraction, and where its unit is to start. -/
def readNumber (n offset : Nat) (cs : List Char) :
    Except UnitsError (Nat × Option (Nat × Nat) × Nat × List Char) :=
  let offset := offset + octets (cs.takeWhile isNumeric)
  match digitsValue n (cs.takeWhile isNumeric), cs.dropWhile isNumeric with
  | .error e, _ => .error e
  | .ok whole, '.' :: rest =>
    match readFraction offset rest with
    | .error e => .error e
    | .ok (fraction, offset, rest) => .ok (whole, some fraction, offset, rest)
  | .ok whole, rest =>
    if rest.head?.all isUnitLetter then .ok (whole, none, offset, rest)
    else .error (.invalidCharacter offset)

/-- The rest of a term whose number has begun with the value `n`, as read from `offset` on. -/
def readTerm (n offset : Nat) (cs : List Char) : Except UnitsError (Term × Nat × List Char) :=
  match readNumber n offset cs with
  | .error e => .error e
  | .ok (whole, fraction, offset, rest) =>
    let name := String.ofList (rest.takeWhile isUnitLetter)
    let offset := offset + octets (rest.takeWhile isUnitLetter)
    let rest := rest.dropWhile isUnitLetter
    if !(rest.head?.all isNumeric) then .error (.invalidCharacter offset)
    else if name = "" then .error (.unitNeeded whole)
    else
      match TimeUnit.ofName? name with
      | none => .error (.unknownUnit name)
      | some unit => .ok (⟨whole, fraction, unit⟩, offset, rest)

/-- The first digit of the next number, after blanks.  A complaint points at `start`. -/
def firstDigit (start offset : Nat) : List Char → Except UnitsError (Option (Nat × Nat × List Char))
  | [] => .ok none
  | c :: cs =>
    match Text.digit? c with
    | some d => .ok (some (d, offset + c.utf8Size, cs))
    | none =>
      if Text.isBlank c then firstDigit start (offset + c.utf8Size) cs
      else .error (.numberExpected start)

/-- Where the next number starts after a term: at the character that ended the term, or, if
that is a blank, right after it. -/
def nextStart (offset : Nat) : List Char → Nat
  | [] => offset
  | c :: _ => if Text.isBlank c then offset + c.utf8Size else offset

/-! ### Progress -/

theorem length_dropWhile_le (p : Char → Bool) (cs : List Char) :
    (cs.dropWhile p).length ≤ cs.length := (List.dropWhile_suffix p).length_le

theorem length_of_readFraction {point o : Nat} {cs r : List Char} {f : Nat × Nat}
    (h : readFraction point cs = .ok (f, o, r)) : r.length ≤ cs.length := by
  simp only [readFraction, bind, Except.bind] at h
  split at h
  · contradiction
  split at h
  · contradiction
  split at h
  · contradiction
  · simp only [Except.ok.injEq, Prod.mk.injEq] at h
    exact h.2.2 ▸ length_dropWhile_le _ _

theorem length_of_readNumber {n offset w o : Nat} {cs r : List Char} {f : Option (Nat × Nat)}
    (h : readNumber n offset cs = .ok (w, f, o, r)) : r.length ≤ cs.length := by
  have hcs := length_dropWhile_le isNumeric cs
  simp only [readNumber] at h
  split at h
  · contradiction
  · rename_i rest _ hrest
    split at h
    · contradiction
    · rename_i hf
      simp only [Except.ok.injEq, Prod.mk.injEq] at h
      have := length_of_readFraction hf
      simp only [hrest, List.length_cons] at hcs
      rw [← h.2.2.2]
      omega
  · split at h
    · simp only [Except.ok.injEq, Prod.mk.injEq] at h
      exact h.2.2.2 ▸ hcs
    · contradiction

/-- What a term leaves is no longer than what it was read from. -/
theorem length_of_readTerm {n offset o : Nat} {cs r : List Char} {t : Term}
    (h : readTerm n offset cs = .ok (t, o, r)) : r.length ≤ cs.length := by
  simp only [readTerm] at h
  split at h
  · contradiction
  rename_i hn
  split at h
  · contradiction
  split at h
  · contradiction
  split at h
  · contradiction
  · simp only [Except.ok.injEq, Prod.mk.injEq] at h
    exact h.2.2 ▸ Nat.le_trans (length_dropWhile_le _ _) (length_of_readNumber hn)

theorem length_of_firstDigit {start offset d o : Nat} {cs r : List Char}
    (h : firstDigit start offset cs = .ok (some (d, o, r))) : r.length < cs.length := by
  induction cs generalizing offset with
  | nil => simp [firstDigit] at h
  | cons c cs ih =>
    simp only [firstDigit] at h
    split at h
    · cases h; simp
    · split at h
      · exact Nat.lt_succ_of_lt (ih h)
      · contradiction

/-- The sum of the terms of a text.  The number of the next one has begun with the value `n`. -/
def readTerms (total : Duration) (n offset : Nat) (cs : List Char) : Except UnitsError Duration :=
  match _hterm : readTerm n offset cs with
  | .error e => .error e
  | .ok (term, offset, rest) =>
    match addTerm total term with
    | .error e => .error e
    | .ok total =>
      match _hnext : firstDigit (nextStart offset rest) offset rest with
      | .error e => .error e
      | .ok none => .ok total
      | .ok (some (d, offset, rest)) => readTerms total d offset rest
  termination_by cs.length
  decreasing_by
    exact Nat.lt_of_lt_of_le (length_of_firstDigit _hnext) (length_of_readTerm _hterm)

/-- Read a duration written with units.  A lone zero needs none. -/
def ofUnits? (s : String) : Except UnitsError Duration :=
  if s = "0" then .ok zero
  else
    match firstDigit 0 0 s.toList with
    | .error e => .error e
    | .ok none => .error .empty
    | .ok (some (d, offset, rest)) => readTerms zero d offset rest

/-! ### Writing -/

/-- A count with a unit whose name takes an ending for more than one. -/
def counting (n : Nat) (name ending : String) : List String :=
  if n = 0 then [] else [toString n ++ name ++ if n = 1 then "" else ending]

/-- The parts of the canonical spelling, longest unit first, those that count nothing left out. -/
def parts (d : Duration) : List String :=
  let s := d.secs.toNat
  let inYear := s % 31557600
  let inMonth := inYear % 2630016
  let inDay := inMonth % 86400
  counting (s / 31557600) "year" "s" ++ counting (inYear / 2630016) "month" "s" ++
  counting (inMonth / 86400) "day" "s" ++ counting (inDay / 3600) "h" "" ++
  counting (inDay % 3600 / 60) "m" "" ++ counting (inDay % 60) "s" "" ++
  counting (d.nanos / 1000000) "ms" "" ++ counting (d.nanos / 1000 % 1000) "us" "" ++
  counting (d.nanos % 1000) "ns" ""

/-- The canonical spelling of a duration. -/
def render (d : Duration) : String := if d = zero then "0s" else " ".intercalate d.parts

end Duration

end Outflow
