/-!
# Dates

Moments are counted in seconds from the beginning of 1970, without leap seconds; days in the
calendar that is in common use, which also counts for the time before there was one.
-/

namespace Outflow

/-- A day of the calendar. -/
structure CalendarDay where
  year : Int
  month : Nat
  day : Nat
  deriving DecidableEq, Repr

namespace CalendarDay

/-- The days from the beginning of 1970 to a day.  Years are taken to begin in March, so that a
leap day is the last one. -/
def toDays (c : CalendarDay) : Int :=
  let year := if c.month ≤ 2 then c.year - 1 else c.year
  let month : Int := ((c.month + 9) % 12 : Nat)
  let era := year / 400
  let inEra := year - era * 400
  let dayOfYear := (153 * month + 2) / 5 + (c.day : Int) - 1
  era * 146097 + inEra * 365 + inEra / 4 - inEra / 100 + dayOfYear - 719468

/-- The day so many days after the beginning of 1970. -/
def ofDays (days : Int) : CalendarDay :=
  let z := days + 719468
  let era := z / 146097
  let dayOfEra := z - era * 146097
  let yearOfEra := (dayOfEra - dayOfEra / 1460 + dayOfEra / 36524 - dayOfEra / 146096) / 365
  let dayOfYear := dayOfEra - (365 * yearOfEra + yearOfEra / 4 - yearOfEra / 100)
  let fromMarch := (5 * dayOfYear + 2) / 153
  let day := dayOfYear - (153 * fromMarch + 2) / 5 + 1
  let month := if fromMarch < 10 then fromMarch + 3 else fromMarch - 9
  ⟨yearOfEra + era * 400 + if month ≤ 2 then 1 else 0, month.toNat, day.toNat⟩

/-- Whether a day stands in the calendar. -/
def isReal (c : CalendarDay) : Bool := ofDays c.toDays = c

end CalendarDay

/-- A moment. -/
structure Moment where
  /-- Seconds from the beginning of 1970. -/
  seconds : Int
  nanos : Nat
  deriving DecidableEq, Repr

namespace Moment

/-- The days from the beginning of 1970. -/
def days (m : Moment) : Int := m.seconds / 86400

/-- The seconds of the day. -/
def inDay (m : Moment) : Nat := (m.seconds % 86400).toNat

/-- The day. -/
def date (m : Moment) : CalendarDay := CalendarDay.ofDays m.days

/-- The hours, minutes and seconds. -/
def clock (m : Moment) : Nat × Nat × Nat :=
  (m.inDay / 3600, m.inDay / 60 % 60, m.inDay % 60)

/-- The day of the week; zero is Sunday. -/
def weekday (m : Moment) : Nat := ((m.days + 4) % 7).toNat

/-- The day of the year, from zero. -/
def dayOfYear (m : Moment) : Nat := (m.days - (CalendarDay.mk m.date.year 1 1).toDays).toNat

/-- The year and the week that a day belongs to when weeks begin on Monday and a week belongs
to the year that has most of its days. -/
def weekDate (m : Moment) : Int × Nat :=
  -- The Thursday of the week decides.
  let thursday := m.days - ((m.weekday + 6) % 7 : Nat) + 3
  let year := (CalendarDay.ofDays thursday).year
  (year, ((thursday - (CalendarDay.mk year 1 1).toDays) / 7 + 1).toNat)

/-- The names of the days. -/
def dayNames : List String :=
  ["Sunday", "Monday", "Tuesday", "Wednesday", "Thursday", "Friday", "Saturday"]

/-- The names of the months. -/
def monthNames : List String :=
  ["January", "February", "March", "April", "May", "June", "July", "August", "September",
   "October", "November", "December"]

/-! ### Writing -/

/-- What a letter of a format stands for. -/
inductive Field where
  /-- A number, with the character and the width that it is filled up with. -/
  | number (n : Int) (fill : Char) (width : Nat)
  | text (s : String)
  /-- Another format. -/
  | format (s : String)

/-- What a letter stands for at a moment. -/
def field? (m : Moment) (letter : Char) : Option Field :=
  let date := m.date
  let (hour, minute, second) := m.clock
  let hour12 := if hour % 12 = 0 then 12 else hour % 12
  let dayName := dayNames.getD m.weekday ""
  let monthName := monthNames.getD (date.month - 1) ""
  let two (n : Int) : Option Field := some (.number n '0' 2)
  match letter with
  | 'Y' => some (.number date.year '0' 4)
  | 'C' => two (date.year / 100)
  | 'y' => two (date.year % 100)
  | 'm' => two date.month
  | 'd' => two date.day
  | 'e' => some (.number date.day ' ' 2)
  | 'H' => two hour
  | 'k' => some (.number hour ' ' 2)
  | 'I' => two hour12
  | 'l' => some (.number hour12 ' ' 2)
  | 'M' => two minute
  | 'S' => two second
  | 'N' => some (.number m.nanos '0' 9)
  | 's' => some (.number m.seconds '0' 1)
  | 'j' => some (.number (m.dayOfYear + 1) '0' 3)
  | 'u' => some (.number (if m.weekday = 0 then 7 else m.weekday) '0' 1)
  | 'w' => some (.number m.weekday '0' 1)
  | 'q' => some (.number ((date.month - 1) / 3 + 1 : Nat) '0' 1)
  | 'U' => two ((m.dayOfYear + 7 - m.weekday) / 7 : Nat)
  | 'W' => two ((m.dayOfYear + 7 - (m.weekday + 6) % 7) / 7 : Nat)
  | 'V' => two m.weekDate.2
  | 'G' => some (.number m.weekDate.1 '0' 4)
  | 'g' => two (m.weekDate.1 % 100)
  | 'a' => some (.text (dayName.take 3).toString)
  | 'A' => some (.text dayName)
  | 'b' => some (.text (monthName.take 3).toString)
  | 'h' => some (.text (monthName.take 3).toString)
  | 'B' => some (.text monthName)
  | 'p' => some (.text (if hour < 12 then "AM" else "PM"))
  | 'P' => some (.text (if hour < 12 then "am" else "pm"))
  | 'Z' => some (.text "UTC")
  | 'z' => some (.text "+0000")
  | 'n' => some (.text "\n")
  | 't' => some (.text "\t")
  | '%' => some (.text "%")
  | 'c' => some (.format "%a %b %e %H:%M:%S %Y")
  | 'D' => some (.format "%m/%d/%y")
  | 'x' => some (.format "%m/%d/%y")
  | 'F' => some (.format "%Y-%m-%d")
  | 'R' => some (.format "%H:%M")
  | 'T' => some (.format "%H:%M:%S")
  | 'X' => some (.format "%H:%M:%S")
  | 'r' => some (.format "%I:%M:%S %p")
  | _ => none

/-- A text filled up in front to a width. -/
def filled (fill : Char) (width : Nat) (s : String) : String :=
  "".pushn fill (width - s.length) ++ s

/-- A number filled up; its sign comes first. -/
def numberText (fill : Char) (width : Nat) (n : Int) : String :=
  if n < 0 then "-" ++ filled fill (width - 1) (toString n.natAbs)
  else filled fill width (toString n.natAbs)

/-- Write a moment as a format says.  Fuel is more than the length of the format, and enough for
the formats that letters stand for. -/
def render (fuel : Nat) (m : Moment) (cs : List Char) : String :=
  match fuel, cs with
  | 0, _ => ""
  | _, [] => ""
  | fuel + 1, '%' :: rest =>
    let flags := rest.takeWhile (['-', '_', '0', '^', '#', '+'].contains ·)
    let digits := (rest.drop flags.length).takeWhile Char.isDigit
    let after := rest.drop (flags.length + digits.length)
    let colons := after.takeWhile (· = ':')
    let width := (String.ofList digits).toNat?.getD 0
    match after.drop colons.length with
    | [] => "%" ++ String.ofList rest
    | letter :: after =>
      let padding : Option Char := flags.reverse.findSome? fun
        | '-' => some '-'
        | '_' => some ' '
        | '0' => some '0'
        | _ => none
      let text (s : String) : String :=
        let s := if flags.contains '^' then s.toUpper
          else if flags.contains '#' then (if letter = 'Z' || letter = 'p' then s.toLower
            else s.toUpper)
          else s
        filled (if padding = some '0' then '0' else ' ') width s
      let shown := match m.field? letter, colons with
        | some (.number n fill least), [] =>
          match padding with
          | some '-' => numberText ' ' width n
          | some c => numberText c (max width least) n
          | none => numberText fill (max width least) n
        | some (.text s), [] => text s
        | some (.format s), [] => text (render fuel m s.toList)
        | some _, [_] => if letter = 'z' then "+00:00" else "%:" ++ String.singleton letter
        | some _, _ => if letter = 'z' then "+00:00:00" else "%::" ++ String.singleton letter
        | none, _ => "%" ++ String.ofList (flags ++ digits ++ colons) ++ String.singleton letter
      shown ++ render fuel m after
  | fuel + 1, c :: rest => String.singleton c ++ render fuel m rest

end Moment

end Outflow
