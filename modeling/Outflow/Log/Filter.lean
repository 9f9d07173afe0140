import Outflow.Log
import Outflow.Log.Pattern

/-!
# Filters for the log

A `LogFilter` decides which entries are shown.  It is a list of directives.  A directive names a
level and, if it likes, what it is about: parts of the program whose names begin with a text,
entries that have certain fields, or what happens inside a span.  Of the directives that are
about an entry the most specific one rules; an entry that none is about is not shown.

There are no spans here, so a directive that names one, or asks for the value of a field, is
about nothing.
-/

namespace Outflow

/-- A field that an entry must have. -/
structure LogField where
  name : String
  /-- Whether a value is asked for. -/
  hasValue : Bool
  deriving DecidableEq, Repr

/-- What some entries must look like, and the greatest detail up to which they are shown. -/
structure LogDirective where
  target : Option String
  span : Option String
  fields : List LogField
  /-- Zero shows nothing. -/
  detail : Nat
  deriving DecidableEq, Repr

namespace LogDirective

/-- Whether a directive is about an entry. -/
def isAbout (d : LogDirective) (e : LogEntry) : Bool :=
  d.span.isNone &&
    d.target.all (fun t => t.toList.isPrefixOf e.source.target.toList) &&
    d.fields.all fun f => !f.hasValue && e.fieldNames.contains f.name

/-- How specific a directive is: first by the length of its target, then by the number of its
fields, and last by their names. -/
def rank (d : LogDirective) : Nat × Nat × String :=
  ((d.target.map (·.utf8ByteSize + 1)).getD 0, d.fields.length,
    "\x00".intercalate (d.fields.map (·.name)))

/-- Whether a directive is at least as specific as another. -/
def outranks (d e : LogDirective) : Bool :=
  let (a, b, c) := d.rank
  let (a', b', c') := e.rank
  a' < a || (a' == a && (b' < b || (b' == b && (c' < c || c' == c))))

/-! ### Reading -/

/-- The detail of a level by its name or its number. -/
def readDetail? (s : String) : Option Nat :=
  let cs := s.toList
  let digits := if cs.head? = some '+' then cs.drop 1 else cs
  match (if digits.all Char.isDigit then (String.ofList digits).toNat? else none) with
  | some n => if n ≤ 5 then some n else none
  | none =>
    let names := ["off", "error", "warn", "info", "debug", "trace"]
    if s = "" then some 1 else names.findIdx? (· = String.ofList (cs.map Char.toLower))

/-- The detail of a directive that names no level. -/
def fullDetail : Nat := 5

/-- Where in a directive a reader is.  Numbers say where the present part began. -/
inductive Place where
  | start
  /-- In a word that is a target or a level. -/
  | word
  | span (since : Nat)
  | field (since : Nat)
  /-- After the last field. -/
  | afterFields
  /-- After the bracket that closes span and fields. -/
  | afterSpan
  | level (since : Nat)

/-- A field, by its text.  The value that it asks for ends where another equals sign comes. -/
def readField? (s : String) : Option LogField :=
  let name := s.toList.takeWhile (· ≠ '=')
  let value := (s.toList.drop (name.length + 1)).takeWhile (· ≠ '=')
  if s = "" || !LogPattern.isValid value then none
  else some ⟨String.ofList name, name.length < s.length⟩

/-- Read on in a directive.  Positions count from the first character that is not blank, and
texts are cut out of `whole` at these positions. -/
def readFrom (whole : List Char) (i : Nat) (place : Place) (d : LogDirective) :
    List Char → Option LogDirective
  | [] =>
    let rest (since : Nat) : String := String.ofList (whole.drop since)
    match place with
    | .word =>
      match readDetail? (rest 0) with
      | some detail => some { d with detail }
      | none => some { d with target := some (rest 0) }
    | .level since =>
      if rest since = "" then some d
      else (readDetail? (rest since)).map fun detail => { d with detail }
    | .afterSpan => some d
    | _ => none
  | c :: cs =>
    let part (since : Nat) : String := String.ofList ((whole.drop since).take (i - since))
    let go (place : Place) (d : LogDirective) : Option LogDirective :=
      readFrom whole (i + 1) place d cs
    match place with
    | .start =>
      if c = '[' then go (.span (i + 1)) d
      else if ['-', ':', '_'].contains c || Text.isLetterOrDigit c then go .word d
      else none
    | .word =>
      if c = '=' then go (.level (i + 1)) { d with target := some (part 0) }
      else if c = '[' then go (.span (i + 1)) { d with target := some (part 0) }
      else go .word d
    | .span since =>
      if c = ']' then go .afterSpan { d with span := some (part since) }
      else if c = '\x7b' then
        go (.field (i + 1)) { d with span := if part since = "" then none else some (part since) }
      else go place d
    | .field since =>
      if c = '\x7d' then do
        let f ← readField? (part since)
        go .afterFields { d with fields := d.fields ++ [f] }
      else go place d
    | .afterFields => if c = ']' then go .afterSpan d else none
    | .afterSpan => if c = '=' then go (.level (i + 1)) d else none
    | .level _ => go place d

/-- Read a directive. -/
def read? (s : String) : Option LogDirective :=
  readFrom s.toList 0 .start ⟨none, none, [], fullDetail⟩ (Text.trim s).toList

end LogDirective

/-- A list of directives. -/
abbrev LogFilter := List LogDirective

namespace LogFilter

/-- Read a filter: directives with commas between them. -/
def read? (s : String) : Option LogFilter :=
  ((s.toList.splitOn ',').filter (!·.isEmpty)).mapM fun cs => LogDirective.read? (String.ofList cs)

/-- The most specific directive that is about an entry; of equal ones the last. -/
def ruling? (f : LogFilter) (e : LogEntry) : Option LogDirective :=
  (f.filter (·.isAbout e)).foldl
    (fun best d => if best.all (d.outranks ·) then some d else best) none

/-- Whether an entry is shown. -/
def shows (f : LogFilter) (e : LogEntry) : Bool :=
  (f.ruling? e).any fun d => e.level.detail ≤ d.detail

end LogFilter

end Outflow
