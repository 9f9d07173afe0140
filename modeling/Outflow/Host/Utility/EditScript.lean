import Outflow.Host.Amount
import Outflow.Host.Flow
import Outflow.Regex.Reader

/-!
# Scripts of a stream editor

The commands that a stream editor runs on each line, and how they are written.  Blocks are kept
flat: a command that opens one knows where it ends.
-/

namespace Outflow.Edit

/-- What a line is chosen by. -/
inductive Address where
  | line (n : Nat)
  | last
  /-- A match; without an expression the one that was used last. -/
  | pattern (r : Option Regex)
  /-- Every so many lines from a first one on. -/
  | every (first step : Nat)
  /-- So many lines more. -/
  | plus (n : Nat)
  /-- Up to a multiple. -/
  | multiple (n : Nat)
  deriving Repr

/-- Which lines a command is for. -/
structure Guard where
  first : Option Address
  second : Option Address
  isNegated : Bool
  deriving Repr

/-- What is done to the case of the letters that follow. -/
inductive Casing where
  | upper
  | lower
  | upperNext
  | lowerNext
  | plain
  deriving DecidableEq, Repr

/-- A part of a replacement. -/
inductive Part where
  | text (b : UInt8)
  /-- What a group took; the whole match is group zero. -/
  | group (n : Nat)
  | casing (c : Casing)
  deriving Repr

/-- What is to be put in the place of matches. -/
structure Substitution where
  pattern : Option Regex
  replacement : List Part
  isGlobal : Bool
  /-- The first match that is replaced. -/
  number : Nat
  prints : Bool
  file : Option String
  deriving Repr

/-- What a command does. -/
inductive Action where
  /-- Go on only if the line is chosen; else after the block, which has so many commands. -/
  | block (size : Nat)
  | nothing
  | append (text : Bytes)
  | insert (text : Bytes)
  | change (text : Bytes)
  | jump (label : String)
  | jumpIf (changed : Bool) (label : String)
  | label (name : String)
  | delete
  | deleteFirst
  | show
  | showFirst
  | showPlainly
  | lineNumber
  | fileName
  | next
  | nextAppended
  | hold (append : Bool)
  | fetch (append : Bool)
  | exchange
  | quit (silently : Bool) (status : Nat)
  | readFile (path : String)
  | writeFile (first : Bool) (path : String)
  | substitute (s : Substitution)
  | transliterate (pairs : List (UInt8 × UInt8))
  | emptySpace
  deriving Repr

/-- A command. -/
structure Step where
  guard : Guard
  action : Action
  deriving Repr

/-- Why a text is no script, and how many characters were read by then. -/
structure Fault where
  place : Nat
  text : String

/-! ### Reading -/

/-- A fault before the text that is left. -/
def fault {α : Type} (size : Nat) (rest : List Char) (text : String) : Except Fault α :=
  .error ⟨size - rest.length, text⟩

/-- Pass over blanks. -/
def skipBlanks (cs : List Char) : List Char := cs.dropWhile fun c => c = ' ' || c = '\t'

/-- Pass over blanks and line ends. -/
def skipSpace (cs : List Char) : List Char := cs.dropWhile Char.isWhitespace

/-- Text up to a delimiter on the same line.  A delimiter or a line end after a backslash loses
the backslash; in sets in brackets a delimiter counts too.  Other escapes are left alone. -/
def takeDelimited (delimiter : Char) (isPattern : Bool) :
    List Char → Option (List Char × List Char)
  | [] => none
  | '\\' :: c :: rest =>
    (takeDelimited delimiter isPattern rest).map fun (cs, rest) =>
      if c = '\n' || (c = delimiter && (isPattern || c ≠ '&')) then (c :: cs, rest)
      else if isPattern && c = 'n' then ('\n' :: cs, rest)
      else ('\\' :: c :: cs, rest)
  | c :: rest =>
    if c = delimiter then some ([], rest)
    else if c = '\n' then none
    else (takeDelimited delimiter isPattern rest).map fun (cs, rest) => (c :: cs, rest)

/-- A number at the front. -/
def takeNumber (cs : List Char) : Nat × List Char :=
  (valueIn 10 (cs.takeWhile Char.isDigit), cs.dropWhile Char.isDigit)

/-- An expression between delimiters; an empty one means the last one used. -/
def readPattern (extended : Bool) (size : Nat) (ignoresCase : Bool) (cs rest : List Char) :
    Except Fault (Option Regex) :=
  if cs.isEmpty then .ok none
  else
    match Regex.ofText ⟨extended, ignoresCase⟩ cs with
    | .ok r => .ok (some r)
    | .error e => fault size rest e.message

/-- An address, if the text goes on with one. -/
def readAddress (extended : Bool) (size : Nat) (cs : List Char) :
    Except Fault (Option Address × List Char) :=
  let pattern (delimiter : Char) (cs : List Char) : Except Fault (Option Address × List Char) :=
    match takeDelimited delimiter true cs with
    | none => fault size [] "unterminated address regex"
    | some (text, rest) =>
      let flags := rest.takeWhile fun c => c = 'I' || c = 'M'
      let rest := rest.drop flags.length
      (readPattern extended size (flags.contains 'I') text rest).map fun r =>
        (some (.pattern r), rest)
  match cs with
  | '$' :: rest => .ok (some .last, rest)
  | '/' :: rest => pattern '/' rest
  | '\\' :: c :: rest => pattern c rest
  | '+' :: rest =>
    let (n, rest) := takeNumber rest
    .ok (some (.plus n), rest)
  | '~' :: rest =>
    let (n, rest) := takeNumber rest
    .ok (some (.multiple n), rest)
  | c :: _ =>
    if c.isDigit then
      let (n, rest) := takeNumber cs
      match skipBlanks rest with
      | '~' :: more =>
        let (step, rest) := takeNumber more
        .ok (some (.every n step), rest)
      | _ => .ok (some (.line n), rest)
    else .ok (none, cs)
  | [] => .ok (none, cs)

/-- The lines that a command is for. -/
def readGuard (extended : Bool) (size : Nat) (cs : List Char) :
    Except Fault (Guard × List Char) := do
  let (first, rest) ← match cs with
    | '+' :: _ => pure (none, cs)
    | '~' :: _ => pure (none, cs)
    | cs => readAddress extended size cs
  let rest := skipBlanks rest
  let (second, rest) ← match first, rest with
    | some _, ',' :: more =>
      match ← readAddress extended size (skipBlanks more) with
      | (none, rest) => fault size (rest.drop 1) "unexpected \x60,'"
      | (some a, rest) => pure (some a, skipBlanks rest)
    | none, ',' :: more => fault size more "unexpected \x60,'"
    | _, rest => pure (none, rest)
  match rest with
  | '!' :: rest => return (⟨first, second, true⟩, skipBlanks rest)
  | rest => return (⟨first, second, false⟩, rest)

/-- The octet of an escape of one letter. -/
def letterOctet? : Char → Option UInt8
  | 'n' => some 10
  | 't' => some 9
  | 'a' => some 7
  | 'f' => some 12
  | 'v' => some 11
  | 'r' => some 13
  | _ => none

/-- The parts of a replacement. -/
def readReplacement : List Char → List Part
  | '\\' :: c :: rest =>
    if c.isDigit then .group (c.toNat - 48) :: readReplacement rest
    else
      let casing? : Option Casing := match c with
        | 'U' => some .upper
        | 'L' => some .lower
        | 'u' => some .upperNext
        | 'l' => some .lowerNext
        | 'E' => some .plain
        | _ => none
      match casing?, letterOctet? c with
      | some casing, _ => .casing casing :: readReplacement rest
      | none, some b => .text b :: readReplacement rest
      | none, none => .text (Regex.octet c) :: readReplacement rest
  | '&' :: rest => .group 0 :: readReplacement rest
  | c :: rest => .text (Regex.octet c) :: readReplacement rest
  | [] => []

/-- The number of groups in an expression. -/
def countGroups : Regex → Nat
  | .group n body => max n (countGroups body)
  | .seq a b => max (countGroups a) (countGroups b)
  | .either a b => max (countGroups a) (countGroups b)
  | .repeated body _ _ => countGroups body
  | _ => 0

/-- What comes after a command must be the end of it. -/
def readEnd (size : Nat) (cs : List Char) : Except Fault (List Char) :=
  match skipBlanks cs with
  | [] => .ok []
  | '\n' :: rest => .ok rest
  | ';' :: rest => .ok rest
  | '\x7d' :: rest => .ok ('\x7d' :: rest)
  | '#' :: rest => .ok ('#' :: rest)
  | _ :: rest => fault size rest "extra characters after command"

/-- The flags of a substitution. -/
def readOptions (size fuel : Nat) (s : Substitution) (ignoresCase : Bool) (cs : List Char) :
    Except Fault (Substitution × Bool × List Char) :=
  match fuel, cs with
  | 0, _ => .ok (s, ignoresCase, cs)
  | fuel + 1, 'g' :: rest => readOptions size fuel { s with isGlobal := true } ignoresCase rest
  | fuel + 1, 'p' :: rest => readOptions size fuel { s with prints := true } ignoresCase rest
  | fuel + 1, 'i' :: rest => readOptions size fuel s true rest
  | fuel + 1, 'I' :: rest => readOptions size fuel s true rest
  | fuel + 1, 'm' :: rest => readOptions size fuel s ignoresCase rest
  | fuel + 1, 'M' :: rest => readOptions size fuel s ignoresCase rest
  | _, 'w' :: rest =>
    let path := (skipBlanks rest).takeWhile (· ≠ '\n')
    .ok ({ s with file := some (String.ofList path) }, ignoresCase,
      (skipBlanks rest).drop path.length)
  | fuel + 1, c :: rest =>
    if c.isDigit then
      let (n, rest) := takeNumber cs
      if n = 0 then fault size rest "number option to \x60s' command may not be zero"
      else readOptions size fuel { s with number := n } ignoresCase rest
    else if c = '\n' || c = ';' || c = '\x7d' || c = '#' || c = ' ' || c = '\t' then
      .ok (s, ignoresCase, cs)
    else fault size rest "unknown option to \x60s'"
  | _, [] => .ok (s, ignoresCase, [])

/-- A substitution, after its letter. -/
def readSubstitution (extended : Bool) (size : Nat) (cs : List Char) :
    Except Fault (Action × List Char) :=
  match cs with
  | [] => fault size [] "unterminated \x60s' command"
  | delimiter :: rest =>
    match takeDelimited delimiter true rest with
    | none => fault size [] "unterminated \x60s' command"
    | some (pattern, rest) =>
      match takeDelimited delimiter false rest with
      | none => fault size [] "unterminated \x60s' command"
      | some (text, rest) => do
        let parts := readReplacement text
        let (s, ignoresCase, rest) ←
          readOptions size (rest.length + 1) ⟨none, parts, false, 1, false, none⟩ false rest
        let pattern ← readPattern extended size ignoresCase pattern rest
        let most := parts.foldl
          (fun n p => match p with | .group k => max n k | _ => n) 0
        if pattern.any fun r => countGroups r < most then
          fault size rest s!"invalid reference \\{most} on \x60s' command's RHS"
        else
          let rest ← readEnd size rest
          return (.substitute { s with pattern }, rest)

/-- The octets of one side of a transliteration. -/
def readOctets : List Char → Bytes
  | '\\' :: c :: rest => (letterOctet? c).getD (Regex.octet c) :: readOctets rest
  | c :: rest => Regex.octet c :: readOctets rest
  | [] => []

/-- A transliteration, after its letter. -/
def readTransliteration (size : Nat) (cs : List Char) : Except Fault (Action × List Char) :=
  match cs with
  | [] => fault size [] "unterminated \x60y' command"
  | delimiter :: rest =>
    match takeDelimited delimiter false rest with
    | none => fault size [] "unterminated \x60y' command"
    | some (first, rest) =>
      match takeDelimited delimiter false rest with
      | none => fault size [] "unterminated \x60y' command"
      | some (second, rest) =>
        let a := readOctets first
        let b := readOctets second
        if a.length ≠ b.length then
          fault size rest "strings for \x60y' command are different lengths"
        else (readEnd size rest).map fun rest => (.transliterate (a.zip b), rest)

/-- The lines of a text that a command brings along: a backslash joins the next line to it. -/
def takeText : List Char → List Char × List Char
  | '\\' :: c :: rest =>
    let (cs, rest) := takeText rest
    (c :: cs, rest)
  | '\n' :: rest => ([], rest)
  | c :: rest =>
    let (cs, rest) := takeText rest
    (c :: cs, rest)
  | [] => ([], [])

/-- A command that brings a text along, after its letter. -/
def readTextCommand (size : Nat) (make : Bytes → Action) (cs : List Char) :
    Except Fault (Action × List Char) :=
  let text := match skipBlanks cs with
    | '\\' :: rest =>
      match skipBlanks rest with
      | '\n' :: rest => some rest
      | _ => some (skipBlanks rest)
    | [] => none
    | rest => some rest
  match text with
  | none => fault size [] "expected \\ after \x60a', \x60c' or \x60i'"
  | some cs =>
    let (body, rest) := takeText cs
    .ok (make (Bytes.ofRaw (String.ofList body) ++ [Bytes.newline]), rest)

/-- A command whose argument goes to the end of its line, or, for a label, to a semicolon. -/
def readWord (isLabel : Bool) (cs : List Char) : String × List Char :=
  let cs := skipBlanks cs
  let word := cs.takeWhile fun c => c ≠ '\n' && (!isLabel || (c ≠ ';' && c ≠ ' '))
  (String.ofList word, (cs.drop word.length).drop 1)

/-- A command after its guard.  `depth` is the number of open blocks. -/
def readAction (extended : Bool) (size : Nat) (g : Guard) (cs : List Char) :
    Except Fault (Action × List Char) :=
  let simple (a : Action) (rest : List Char) : Except Fault (Action × List Char) :=
    (readEnd size rest).map fun rest => (a, rest)
  let word (isLabel : Bool) (make : String → Action) (rest : List Char) :
      Except Fault (Action × List Char) :=
    let (w, rest) := readWord isLabel rest
    .ok (make w, rest)
  let path (make : String → Action) (rest : List Char) : Except Fault (Action × List Char) :=
    let (w, rest) := readWord false rest
    if w = "" then fault size rest "missing filename in r/R/w/W commands" else .ok (make w, rest)
  let status (silently : Bool) (rest : List Char) : Except Fault (Action × List Char) :=
    let (n, rest) := takeNumber (skipBlanks rest)
    if g.second.isSome then fault size rest "command only uses one address"
    else simple (.quit silently n) rest
  match cs with
  | [] => fault size [] "missing command"
  | c :: rest =>
    match c with
    | '#' =>
      if g.first.isSome then fault size rest "comments don't accept any addresses"
      else .ok (.nothing, rest.dropWhile (· ≠ '\n'))
    | ':' =>
      if g.first.isSome then fault size rest ": doesn't want any addresses"
      else
        let (w, rest') := readWord true rest
        if w = "" then fault size rest' "\":\" lacks a label" else .ok (.label w, rest')
    | '=' => simple .lineNumber rest
    | 'a' => readTextCommand size .append rest
    | 'i' => readTextCommand size .insert rest
    | 'c' => readTextCommand size .change rest
    | 'b' => word true .jump rest
    | 't' => word true (.jumpIf true) rest
    | 'T' => word true (.jumpIf false) rest
    | 'd' => simple .delete rest
    | 'D' => simple .deleteFirst rest
    | 'F' => simple .fileName rest
    | 'g' => simple (.fetch false) rest
    | 'G' => simple (.fetch true) rest
    | 'h' => simple (.hold false) rest
    | 'H' => simple (.hold true) rest
    | 'l' => simple .showPlainly (takeNumber (skipBlanks rest)).2
    | 'n' => simple .next rest
    | 'N' => simple .nextAppended rest
    | 'p' => simple .show rest
    | 'P' => simple .showFirst rest
    | 'q' => status false rest
    | 'Q' => status true rest
    | 'r' => path .readFile rest
    | 's' => readSubstitution extended size rest
    | 'w' => path (.writeFile false) rest
    | 'W' => path (.writeFile true) rest
    | 'x' => simple .exchange rest
    | 'y' => readTransliteration size rest
    | 'z' => simple .emptySpace rest
    | c => fault size rest s!"unknown command: \x60{String.singleton c}'"

/-- Steps up to the end of a block or of the text.  `depth` is the number of open blocks. -/
def readSteps (extended : Bool) (size fuel depth : Nat) (cs : List Char) :
    Except Fault (List Step × List Char) :=
  match fuel with
  | 0 => .ok ([], cs)
  | fuel + 1 =>
    match cs.dropWhile fun c => c.isWhitespace || c = ';' with
    | [] =>
      if 0 < depth then .error ⟨0, "unmatched \x60\x7b'"⟩ else .ok ([], [])
    | '\x7d' :: rest =>
      if depth = 0 then fault size rest "unexpected \x60\x7d'"
      else (readEnd size rest).map fun rest => ([], rest)
    | cs => do
      let (g, rest) ← readGuard extended size cs
      match rest with
      | '\x7b' :: rest =>
        let (inner, rest) ← readSteps extended size fuel (depth + 1) rest
        let (others, rest) ← readSteps extended size fuel depth rest
        return (⟨g, .block inner.length⟩ :: inner ++ others, rest)
      | '\x7d' :: rest =>
        if g.first.isSome then fault size rest "\x7d doesn't want any addresses"
        else readSteps extended size fuel depth ('\x7d' :: rest)
      | rest =>
        let (a, rest) ← readAction extended size g rest
        let (others, rest) ← readSteps extended size fuel depth rest
        return (⟨g, a⟩ :: others, rest)

/-- Read a script. -/
def readScript (extended : Bool) (text : List Char) : Except Fault (List Step) :=
  (readSteps extended text.length (2 * text.length + 2) 0 text).map (·.1)

end Outflow.Edit
