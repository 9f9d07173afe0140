import Outflow.Host.Calendar
import Outflow.Host.Utility.Basic

/-!
# The program that tells the time

The time of the machine, or a moment that a text describes: a number of seconds, a day, a time
of day, and distances from them.
-/

namespace Outflow.Utility

/-- What a text has said about a moment so far. -/
structure Telling where
  day : Option CalendarDay
  /-- The seconds of the day, and the nanoseconds. -/
  clock : Option (Nat × Nat)
  /-- The seconds that the clock is ahead of universal time. -/
  offset : Int
  /-- Years, months, days and seconds to be added. -/
  distance : Int × Int × Int × Int

/-- Numbers with a character between them. -/
def numbersIn (mark : Char) (cs : List Char) : Option (List Nat) :=
  (cs.splitOn mark).mapM fun part => readNat (String.ofList part)

/-- The day that a word is. -/
def readDay (cs : List Char) : Option CalendarDay :=
  let day? : Option CalendarDay :=
    match numbersIn '-' cs, numbersIn '/' cs, readNat (String.ofList cs) with
    | some [y, m, d], _, _ => some ⟨y, m, d⟩
    | _, some [m, d, y], _ => some ⟨y, m, d⟩
    | _, _, some n =>
      if cs.length = 8 then some ⟨(n / 10000 : Nat), n / 100 % 100, n % 100⟩ else none
    | _, _, _ => none
  day?.filter CalendarDay.isReal

/-- The time of day that a word is. -/
def readClock (cs : List Char) : Option (Nat × Nat) :=
  let whole := cs.takeWhile (· ≠ '.')
  let places := (cs.drop (whole.length + 1)).take 9
  let nanos := (readNat (String.ofList places)).getD 0 * Nat.pow 10 (9 - places.length)
  match numbersIn ':' whole with
  | some [h, m] => if h < 24 ∧ m < 60 then some (h * 3600 + m * 60, 0) else none
  | some [h, m, s] =>
    if h < 24 ∧ m < 60 ∧ s ≤ 60 then some (h * 3600 + m * 60 + s, nanos) else none
  | _ => none

/-- The distance of a clock that a word is. -/
def readOffset (cs : List Char) : Option Int :=
  match cs with
  | sign :: digits =>
    let hours := readNat (String.ofList (digits.take 2))
    let rest := if (digits.drop 2).head? = some ':' then digits.drop 3 else digits.drop 2
    let minutes := if rest.isEmpty then some 0 else readNat (String.ofList rest)
    match hours, minutes with
    | some h, some m =>
      let n : Int := (h * 3600 + m * 60 : Nat)
      if digits.length < 2 then none
      else if sign = '+' then some n else if sign = '-' then some (-n) else none
    | _, _ => none
  | [] => none

/-- The place of a word among names, of which it may be the first three letters. -/
def nameIndex? (names : List String) (word : String) : Option Nat :=
  names.findIdx? fun name =>
    let known := name.toLower
    known = word.toLower || (word.length = 3 && (known.take 3).toString = word.toLower)

/-- A number of units as a distance. -/
def distanceOf (n : Int) (unit : String) : Option (Int × Int × Int × Int) :=
  let unit := if unit.length > 3 && unit.endsWith "s" then (unit.dropEnd 1).toString else unit
  match unit with
  | "year" => some (n, 0, 0, 0)
  | "month" => some (0, n, 0, 0)
  | "fortnight" => some (0, 0, 14 * n, 0)
  | "week" => some (0, 0, 7 * n, 0)
  | "day" => some (0, 0, n, 0)
  | "hour" => some (0, 0, 0, 3600 * n)
  | "minute" => some (0, 0, 0, 60 * n)
  | "min" => some (0, 0, 0, 60 * n)
  | "second" => some (0, 0, 0, n)
  | "sec" => some (0, 0, 0, n)
  | _ => none

/-- Two distances together. -/
def addDistances (a b : Int × Int × Int × Int) : Int × Int × Int × Int :=
  (a.1 + b.1, a.2.1 + b.2.1, a.2.2.1 + b.2.2.1, a.2.2.2 + b.2.2.2)

/-- A number with an optional sign. -/
def readSigned (word : String) : Option Int :=
  match word.toList with
  | '+' :: cs => (readNat (String.ofList cs)).map Int.ofNat
  | '-' :: cs => (readNat (String.ofList cs)).map fun n => -(n : Int)
  | _ => (readNat word).map Int.ofNat

/-- Add a distance. -/
def Telling.moved (t : Telling) (d : Int × Int × Int × Int) : Telling :=
  { t with distance := addDistances t.distance d }

/-- Read the words of a description.  Fuel is more than their number. -/
def readWords (today : CalendarDay) (fuel : Nat) (t : Telling) (words : List String) :
    Option Telling :=
  match fuel, words with
  | 0, _ => none
  | _, [] => some t
  | fuel + 1, word :: rest =>
    let go (t : Telling) (rest : List String) : Option Telling := readWords today fuel t rest
    let cs := word.toList
    let (first, second) := (rest.headD "", (rest.drop 1).headD "")
    match word with
    | "now" => go t rest
    | "today" => go t rest
    | "yesterday" => go (t.moved (0, 0, -1, 0)) rest
    | "tomorrow" => go (t.moved (0, 0, 1, 0)) rest
    | "utc" => go { t with offset := 0 } rest
    | "gmt" => go { t with offset := 0 } rest
    | "z" => go { t with offset := 0 } rest
    | "next" => (distanceOf 1 first).bind fun d => go (t.moved d) (rest.drop 1)
    | "last" => (distanceOf (-1) first).bind fun d => go (t.moved d) (rest.drop 1)
    | _ =>
      if let some day := readDay cs then go { t with day := some day } rest
      else if let some clock := readClock cs then
        match first with
        | "am" =>
          let clock := if clock.1 / 3600 = 12 then (clock.1 - 43200, clock.2) else clock
          go { t with clock := some clock } (rest.drop 1)
        | "pm" =>
          let clock := if clock.1 / 3600 < 12 then (clock.1 + 43200, clock.2) else clock
          go { t with clock := some clock } (rest.drop 1)
        | _ => go { t with clock := some clock } rest
      else if let some month := nameIndex? Moment.monthNames word then
        match readNat (first.replace "," "") with
        | some d =>
          let (year, rest) := match readNat second with
            | some y => if second.length = 4 then ((y : Int), rest.drop 2)
              else (today.year, rest.drop 1)
            | none => (today.year, rest.drop 1)
          let day : CalendarDay := ⟨year, month + 1, d⟩
          if day.isReal then go { t with day := some day } rest else none
        | none => none
      else if (nameIndex? Moment.dayNames word).isSome && t.day.isNone && rest ≠ [] then go t rest
      else
        match readSigned word, nameIndex? Moment.monthNames first with
        | some d, some month =>
          let (year, rest) := match readNat second with
            | some y => if second.length = 4 then ((y : Int), rest.drop 2)
              else (today.year, rest.drop 1)
            | none => (today.year, rest.drop 1)
          let day : CalendarDay := ⟨year, month + 1, d.toNat⟩
          if day.isReal then go { t with day := some day } rest else none
        | some n, none =>
          let sign : Int := if second = "ago" then -1 else 1
          match distanceOf (sign * n) first with
          | some d => go (t.moved d) (rest.drop (if sign < 0 then 2 else 1))
          | none =>
            if t.clock.isSome then (readOffset cs).bind fun n => go { t with offset := n } rest
            else none
        | none, _ =>
          if let some d := distanceOf (if first = "ago" then -1 else 1) word then
            go (t.moved d) (if first = "ago" then rest.drop 1 else rest)
          else if t.clock.isSome then
            (readOffset cs).bind fun n => go { t with offset := n } rest
          else none

/-- The moment that a description tells, seen from another one. -/
def Telling.moment (t : Telling) (now : Moment) : Moment :=
  let (years, months, days, seconds) := t.distance
  let isTold := t.day.isSome || t.clock.isSome
  let start := t.day.getD now.date
  let (inDay, nanos) := t.clock.getD (if isTold then (0, 0) else (now.inDay, now.nanos))
  let month : Int := (start.month : Int) - 1 + months
  let day : CalendarDay := ⟨start.year + years + month / 12, (month % 12).toNat + 1, start.day⟩
  ⟨(day.toDays + days) * 86400 + inDay + seconds - t.offset, nanos⟩

/-- Read a description of a moment. -/
def readMoment (now : Moment) (text : String) : Option Moment :=
  match text.toList with
  | '@' :: cs =>
    let whole := cs.takeWhile (· ≠ '.')
    let places := (cs.drop (whole.length + 1)).take 9
    let nanos := (readNat (String.ofList places)).getD 0 * Nat.pow 10 (9 - places.length)
    (readSigned (String.ofList whole)).map (⟨·, nanos⟩)
  | cs =>
    -- A letter between a day and a time, and one behind a time, stand for themselves.
    let spread := cs.zip (cs.drop 1 ++ [' ']) |>.flatMap fun (c, next) =>
      if c = 'T' && next.isDigit then [' '] else if c = 'Z' && next = ' ' then [' ', 'z'] else [c]
    let words := ((spread.splitOn ' ').filter (!·.isEmpty)).map fun word =>
      (String.ofList word).toLower
    let start : Telling :=
      ⟨none, if words.isEmpty then some (0, 0) else none, 0, (0, 0, 0, 0)⟩
    (readWords now.date (words.length + 1) start words).map (·.moment now)

/-- The format for a kind of date of which every computer can make sense. -/
def standardFormat (parts : String) : Option String :=
  match parts with
  | "" => some "%Y-%m-%d"
  | "date" => some "%Y-%m-%d"
  | "hours" => some "%Y-%m-%dT%H%:z"
  | "minutes" => some "%Y-%m-%dT%H:%M%:z"
  | "seconds" => some "%Y-%m-%dT%H:%M:%S%:z"
  | "ns" => some "%Y-%m-%dT%H:%M:%S,%N%:z"
  | _ => none

/-- Write the time. -/
def date (o : Occasion) : Effect :=
  withFlags o 1 "d:uRI::r:s:3:f:" [("date", 'd'), ("utc", 'u'), ("universal", 'u'),
      ("rfc-email", 'R'), ("iso-8601", 'I'), ("reference", 'r'), ("rfc-3339", '3')] fun flags =>
    let now : Moment := ⟨((o.micros / 1000000 : Nat) : Int), o.micros % 1000000 * 1000⟩
    let format := match flags.operands.head? with
      | some operand => match operand.toList with
        | '+' :: cs => some (String.ofList cs)
        | _ => none
      | none => none
    let standard := match flags.last? ['R', 'I', '3'] with
      | some 'R' => some "%a, %d %b %Y %H:%M:%S %z"
      | some 'I' => standardFormat ((flags.value? 'I').getD "")
      | some _ =>
        (standardFormat ((flags.value? '3').getD "")).map fun s => s.replace "T" " "
      | none => none
    let format := (format.orElse fun () => standard).getD "%a %b %e %H:%M:%S %Z %Y"
    match flags.operands with
    | _ :: extra :: _ => misuse o 1 s!"extra operand {quoted extra}"
    | operands =>
      match operands.find? fun operand => operand.toList.head? ≠ some '+' with
      | some operand =>
        if operands.length = 1 && flags.options.all (·.1 = 'u') then
          complain o 1 s!"invalid date {quoted operand}"
        else misuse o 1 s!"extra operand {quoted operand}"
      | none =>
        let shown (m : Moment) : Effect :=
          printLines o [m.render (4 * format.length + 100) format.toList]
        match flags.value? 'd', flags.value? 'r' with
        | some text, _ =>
          match readMoment now text with
          | some m => shown m
          | none => complain o 1 s!"invalid date {quoted text}"
        | none, some path =>
          match o.files.look o.dir path with
          | .ok _ => shown ⟨0, 0⟩
          | .error e => complain o 1 (fileFault path e)
        | none, none => shown now

end Outflow.Utility
