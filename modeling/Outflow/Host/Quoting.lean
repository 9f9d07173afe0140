import Outflow.Host.Flow

/-!
# Names in messages

How programs show a text that may hold any octets: `quoted` between two quotes, with octets that
cannot be shown escaped, and `shellQuoted` so that a shell would read the same text again.  Texts
are in raw form: each character is one octet.
-/

namespace Outflow

/-- Whether an octet can be shown as it is. -/
def isShown (c : Char) : Bool := ' ' ≤ c && c ≤ '~'

/-- The escape of an octet that cannot be shown. -/
def shownEscape (c : Char) : List Char :=
  match c with
  | '\x07' => ['\\', 'a']
  | '\x08' => ['\\', 'b']
  | '\t' => ['\\', 't']
  | '\n' => ['\\', 'n']
  | '\x0b' => ['\\', 'v']
  | '\x0c' => ['\\', 'f']
  | '\r' => ['\\', 'r']
  | c =>
    let digits := Nat.toDigits 8 c.toNat
    '\\' :: (List.replicate (3 - digits.length) '0' ++ digits)

/-- A text between quotes. -/
def quoted (s : String) : String :=
  let body := s.toList.flatMap fun c =>
    if c = '\'' || c = '\\' then ['\\', c] else if isShown c then [c] else shownEscape c
  String.ofList ('\'' :: body ++ ['\''])

/-- Whether a shell would not take a text for itself, so that it needs quotes. -/
def needsQuotes (cs : List Char) : Bool :=
  let special : List Char :=
    [' ', '!', '"', '$', '&', '(', ')', '*', ';', '<', '=', '>', '[', '^', '\x60', '|', '\'', '?',
     '\\']
  cs.isEmpty || cs.any (fun c => special.contains c || !isShown c) ||
    cs.head?.any (fun c => c = '#' || c = '~') || cs = ['\x7b'] || cs = ['\x7d']

/-- Whether a text means the same between double quotes. -/
def isPlainBetweenDouble (cs : List Char) : Bool :=
  cs.all fun c =>
    c.isAlphanum || ['\'', ' ', '%', '+', ',', '-', '.', '/', ':', ']', '_'].contains c

/-- A text between single quotes for a shell.  `inEscapes` says that the quotes around escapes
are open. -/
def shellBody (inEscapes : Bool) : List Char → List Char
  | [] => ['\'']
  | c :: cs =>
    if !isShown c then
      (if inEscapes then [] else "'$'".toList) ++ shownEscape c ++ shellBody true cs
    else if c = '\'' then '\'' :: '\\' :: '\'' :: '\'' :: shellBody false cs
    else (if inEscapes then ['\'', '\''] else []) ++ c :: shellBody false cs

/-- A text that a shell reads as itself, always with quotes. -/
def shellQuoted (s : String) : String :=
  let cs := s.toList
  if cs.contains '\'' && isPlainBetweenDouble cs then "\"" ++ s ++ "\""
  else String.ofList ('\'' :: shellBody false cs)

/-- A text that a shell reads as itself, with quotes only if they are needed. -/
def shellWord (s : String) : String := if needsQuotes s.toList then shellQuoted s else s

end Outflow
