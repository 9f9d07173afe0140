import Outflow.Shell.Syntax

/-!
# Reading shell programs

A program is read one complete command at a time, since what comes after it may never be
reached.  Every function takes the text that is left and gives back what it does not use.  What
stands in a substitution is a program of its own, and is read where it stands.
-/

namespace Outflow.Shell

/-- Why a text is no program. -/
inductive SyntaxFault where
  | openQuote
  | openBackquote
  /-- The text ends before the mark that closes an expansion. -/
  | missing (closing : String)
  | unexpected (token : String) (expected : Option String)
  | badLoopVariable
  | badFunctionName
  /-- Commands are nested too deep to be read. -/
  | tooDeep
  deriving Repr

/-- What the end of the text is called. -/
def endOfText : String := "end of file"

/-- The wording of a fault. -/
def SyntaxFault.message : SyntaxFault → String
  | openQuote => "Syntax error: Unterminated quoted string"
  | openBackquote => "Syntax error: EOF in backquote substitution"
  | missing closing => s!"Syntax error: Missing '{closing}'"
  | badLoopVariable => "Syntax error: Bad for loop variable"
  | badFunctionName => "Syntax error: Bad function name"
  | unexpected token none => s!"Syntax error: {token} unexpected"
  | unexpected token (some expected) => s!"Syntax error: {token} unexpected (expecting {expected})"
  | tooDeep => "Syntax error: Maximum function recursion depth exceeded"

/-- A fault, and how many lines of the text were not read yet. -/
structure Refusal where
  fault : SyntaxFault
  linesLeft : Nat

/-- Something read, and the text that is left. -/
abbrev Parsed (α : Type) := α × List Char

/-- What a reader gives: something, or why there is nothing. -/
abbrev Reads := Except Refusal

/-- The number of line ends in a text. -/
def countLines (cs : List Char) : Nat := cs.count '\n'

/-- Refuse a text; `rest` is what was not read of it. -/
def refuse {α : Type} (fault : SyntaxFault) (rest : List Char) : Reads α :=
  .error ⟨fault, countLines rest⟩

/-- What a reader knows about the surroundings of its text. -/
structure Reading where
  /-- The number of the last line of the text. -/
  lastLine : Nat
  /-- Names that stand for texts at the start of commands. -/
  aliases : List (String × String)
  /-- Read the program in a substitution: up to a closing bracket, or, without one, up to the
  end.  Its last line has the given number. -/
  inner : Nat → Bool → List Char → Reads (Parsed Tree)

/-- The line that is being read. -/
def Reading.line (r : Reading) (rest : List Char) : Nat := r.lastLine - countLines rest

/-! ### Words -/

/-- A blank between words. -/
def isBlankChar (c : Char) : Bool := c = ' ' || c = '\t'

/-- A character that ends a word. -/
def isMeta (c : Char) : Bool :=
  isBlankChar c || ['\n', ';', '&', '|', '<', '>', '(', ')'].contains c

/-- A character that may begin a name. -/
def isNameStart (c : Char) : Bool := c.isAlpha || c = '_'

/-- A character that may stand in a name. -/
def isNameChar (c : Char) : Bool := c.isAlphanum || c = '_'

/-- Whether a text is a name. -/
def isName : List Char → Bool
  | [] => false
  | c :: cs => isNameStart c && cs.all isNameChar

/-- A parameter with a name of one special character. -/
def isSpecialParameter (c : Char) : Bool := ['@', '*', '#', '?', '-', '$', '!'].contains c

/-- Whether a character has a meaning of its own within a word. -/
def isActive (c : Char) : Bool := ['\\', '\'', '"', '$', '\x60'].contains c

/-- Text up to a closing backquote, after the opening one.  Between double quotes a backslash
also makes a double quote plain. -/
def takeBackquoted (isQuoted : Bool) : List Char → Reads (Parsed (List Char))
  | [] => refuse .openBackquote []
  | '\x60' :: rest => .ok ([], rest)
  | '\\' :: c :: rest =>
    (takeBackquoted isQuoted rest).map fun (cs, rest) =>
      if c = '\n' then (cs, rest)
      else if c = '\x60' || c = '\\' || c = '$' || (c = '"' && isQuoted) then (c :: cs, rest)
      else ('\\' :: c :: cs, rest)
  | c :: rest => (takeBackquoted isQuoted rest).map fun (cs, rest) => (c :: cs, rest)

/-- Drop line ends that are joined. -/
def unjoin : List Char → List Char
  | '\\' :: '\n' :: rest => unjoin rest
  | cs => cs

/-- Where a word stands, which decides what ends it and what is special in it. -/
inductive Setting where
  /-- Outside of quotes, up to a character that ends words. -/
  | bare
  /-- After a parameter within braces, outside of quotes. -/
  | braced
  /-- Between double quotes. -/
  | quoted
  /-- After a parameter within braces, between double quotes. -/
  | quotedBraced
  /-- In arithmetic. -/
  | arithmetic
  /-- In a text that stands in the program. -/
  | here
  deriving DecidableEq, Repr

/-- Whether pieces in some place count as quoted. -/
def Setting.isQuoted : Setting → Bool
  | bare => false
  | braced => false
  | _ => true

/-- The form that a parameter is used in, and the text that is left.  `word` and `pattern` read
what comes up to the closing brace. -/
def readForm (name : List Char) (cs : List Char) (word pattern : List Char → Reads (Parsed Word)) :
    Reads (Parsed (List Char × ParameterForm)) :=
  let form (make : Word → ParameterForm) (r : Reads (Parsed Word)) :
      Reads (Parsed (List Char × ParameterForm)) :=
    r.map fun (w, rest) => ((name, make w), rest)
  match cs with
  | '\x7d' :: rest => .ok ((name, .value), rest)
  | ':' :: '-' :: rest => form (.default true) (word rest)
  | ':' :: '=' :: rest => form (.assign true) (word rest)
  | ':' :: '?' :: rest => form (.require true) (word rest)
  | ':' :: '+' :: rest => form (.alternative true) (word rest)
  | '-' :: rest => form (.default false) (word rest)
  | '=' :: rest => form (.assign false) (word rest)
  | '?' :: rest => form (.require false) (word rest)
  | '+' :: rest => form (.alternative false) (word rest)
  | '#' :: '#' :: rest => form (.strip true true) (pattern rest)
  | '#' :: rest => form (.strip true false) (pattern rest)
  | '%' :: '%' :: rest => form (.strip false true) (pattern rest)
  | '%' :: rest => form (.strip false false) (pattern rest)
  | cs => form (fun _ => .unknown) (word cs)

/-- A parameter after its opening brace. -/
def readBraced (cs : List Char) (word pattern : List Char → Reads (Parsed Word)) :
    Reads (Parsed (List Char × ParameterForm)) :=
  let unknown : Reads (Parsed (List Char × ParameterForm)) :=
    (word cs).map fun (_, rest) => (([], .unknown), rest)
  let length (name rest : List Char) : Reads (Parsed (List Char × ParameterForm)) :=
    (word rest).map fun (_, rest) => ((name, .length), rest)
  match unjoin cs with
  | '#' :: c :: rest =>
    if isNameStart c then
      length ((c :: rest).takeWhile isNameChar) ((c :: rest).dropWhile isNameChar)
    else if c.isDigit then
      length ((c :: rest).takeWhile Char.isDigit) ((c :: rest).dropWhile Char.isDigit)
    else if c ≠ '\x7d' && rest.head? = some '\x7d' then
      if isSpecialParameter c then length [c] rest else unknown
    else readForm ['#'] (c :: rest) word pattern
  | c :: rest =>
    if isNameStart c then
      readForm ((c :: rest).takeWhile isNameChar) ((c :: rest).dropWhile isNameChar) word pattern
    else if c.isDigit then
      readForm ((c :: rest).takeWhile Char.isDigit) ((c :: rest).dropWhile Char.isDigit)
        word pattern
    else if isSpecialParameter c then readForm [c] rest word pattern
    else unknown
  | [] => unknown

mutual

/-- What follows a dollar sign. -/
def readDollar (r : Reading) (fuel : Nat) (isQuoted : Bool) (cs : List Char) :
    Reads (Parsed Piece) :=
  match fuel with
  | 0 => refuse .tooDeep cs
  | fuel + 1 =>
    match unjoin cs with
    | '\x7b' :: rest =>
      let word := readPieces r fuel (if isQuoted then .quotedBraced else .braced) 0
      (readBraced rest word (readPieces r fuel .braced 0)).map fun ((name, form), rest) =>
        (.parameter name form isQuoted, rest)
    | '(' :: '(' :: rest =>
      (readPieces r fuel .arithmetic 0 rest).map fun (w, rest) => (.arithmetic w isQuoted, rest)
    | '(' :: rest =>
      (r.inner r.lastLine true rest).map fun (t, rest) => (.output t isQuoted, rest)
    | c :: rest =>
      if isNameStart c then
        .ok (.parameter ((c :: rest).takeWhile isNameChar) .value isQuoted,
          (c :: rest).dropWhile isNameChar)
      else if c.isDigit || isSpecialParameter c then .ok (.parameter [c] .value isQuoted, rest)
      else .ok (.text ['$'] isQuoted, c :: rest)
    | [] => .ok (.text ['$'] isQuoted, [])

/-- The pieces of a word, up to what ends it in its place.  `depth` is the number of open
brackets in arithmetic. -/
def readPieces (r : Reading) (fuel : Nat) (s : Setting) (depth : Nat) (cs : List Char) :
    Reads (Parsed Word) :=
  match fuel with
  | 0 => refuse .tooDeep cs
  | fuel + 1 =>
    let q := s.isQuoted
    let go (p : Piece) (rest : List Char) : Reads (Parsed Word) :=
      (readPieces r fuel s depth rest).map fun (ps, rest) => (p :: ps, rest)
    match cs with
    | [] =>
      match s with
      | .bare => .ok ([], [])
      | .here => .ok ([], [])
      | .quoted => refuse .openQuote []
      | .braced => refuse (.missing "\x7d") []
      | .quotedBraced => refuse .openQuote []
      | .arithmetic => refuse (.missing "))") []
    | '\\' :: '\n' :: rest => readPieces r fuel s depth rest
    | ['\\'] => go (.text ['\\'] true) []
    | '\\' :: c :: rest =>
      let drops := !q || c = '$' || c = '\x60' || c = '\\' || (c = '"' && s ≠ .here) ||
        (c = '\x7d' && s = .quotedBraced)
      go (.text (if drops then [c] else ['\\', c]) true) rest
    | '$' :: rest => do
      let (p, rest) ← readDollar r fuel q rest
      go p rest
    | '\x60' :: rest => do
      let (source, after) ← takeBackquoted q rest
      -- The lines of such a program are counted from its own start.
      let last := 1 + countLines source
      match r.inner last false source with
      | .ok (t, _) => go (.output t q) after
      | .error e => .error { e with linesLeft := r.lastLine - (last - e.linesLeft) }
    | '\'' :: rest =>
      if q then go (.text ['\''] true) rest
      else
        match rest.dropWhile (· ≠ '\'') with
        | [] => refuse .openQuote []
        | _ :: after => go (.text (rest.takeWhile (· ≠ '\'')) true) after
    | '"' :: rest =>
      match s with
      | .quoted => .ok ([], rest)
      | .here => go (.text ['"'] true) rest
      | .arithmetic => go (.text ['"'] true) rest
      | _ => do
        let (ps, rest) ← readPieces r fuel .quoted 0 rest
        let (more, rest) ← readPieces r fuel s depth rest
        -- A pair of quotes makes a word even with nothing between them.
        return (.text [] true :: ps ++ more, rest)
    | c :: rest =>
      match s with
      | .bare => if isMeta c then .ok ([], c :: rest) else go (.text [c] false) rest
      | .braced => if c = '\x7d' then .ok ([], rest) else go (.text [c] false) rest
      | .quotedBraced => if c = '\x7d' then .ok ([], rest) else go (.text [c] true) rest
      | .arithmetic =>
        let next (depth : Nat) : Reads (Parsed Word) :=
          (readPieces r fuel s depth rest).map fun (ps, rest) => (.text [c] true :: ps, rest)
        if c = '(' then next (depth + 1)
        else if c = ')' then
          match depth, unjoin rest with
          | 0, ')' :: rest => .ok ([], rest)
          | depth, _ => next (depth - 1)
        else next depth
      | _ => go (.text [c] true) rest

end

/-- A word at the start of a text. -/
def readWord (r : Reading) (cs : List Char) : Reads (Parsed Word) :=
  readPieces r (4 * cs.length + 8) .bare 0 cs

/-! ### Tokens -/

/-- What the text goes on with. -/
inductive Token where
  /-- A word, with its text if that is plain. -/
  | word (plain : Option String)
  | operator (s : String)
  | redirection
  | newline
  | done
  deriving DecidableEq, Repr

/-- Pass over blanks, line joins and a comment. -/
def skipBlanks : List Char → List Char
  | '\\' :: '\n' :: rest => skipBlanks rest
  | c :: rest =>
    if isBlankChar c then skipBlanks rest
    else if c = '#' then rest.dropWhile (· ≠ '\n')
    else c :: rest
  | [] => []

/-- The word at the start of a text, if nothing in it is quoted or expanded, and what follows. -/
def plainWord? (cs : List Char) : Option (String × List Char) :=
  let body := cs.takeWhile fun c => !isMeta c
  if body.isEmpty || body.any isActive then none
  else some (String.ofList body, cs.drop body.length)

/-- The next token.  A plain word, an operator or a line end is passed over; any other word and
a redirection are left where they are. -/
def nextToken (cs : List Char) : Token × List Char :=
  match skipBlanks cs with
  | [] => (.done, [])
  | '\n' :: rest => (.newline, rest)
  | '&' :: '&' :: rest => (.operator "&&", rest)
  | '|' :: '|' :: rest => (.operator "||", rest)
  | ';' :: ';' :: rest => (.operator ";;", rest)
  | c :: rest =>
    let isArrow (c : Char) : Bool := c = '<' || c = '>'
    if isArrow c || (c.isDigit && rest.head?.any isArrow) then (.redirection, c :: rest)
    else if isMeta c then (.operator (String.singleton c), rest)
    else
      match plainWord? (c :: rest) with
      | some (w, rest) => (.word (some w), rest)
      | none => (.word none, c :: rest)

/-- The words that have a meaning of their own where a command may start. -/
def reservedWords : List String :=
  ["!", "case", "do", "done", "elif", "else", "esac", "fi", "for", "if", "in", "then", "until",
   "while", "\x7b", "\x7d"]

/-- What a token is called in a complaint.  A reserved word is named only where one counts. -/
def Token.describe (reserved : Bool) : Token → String
  | .word (some w) => if reserved && reservedWords.contains w then s!"\"{w}\"" else "word"
  | .word none => "word"
  | .operator s => s!"\"{s}\""
  | .redirection => "redirection"
  | .newline => "newline"
  | .done => endOfText

/-- Pass over a word that was left where it is. -/
def Reading.pass (r : Reading) (t : Token) (cs : List Char) : Reads (List Char) :=
  match t with
  | .word none => (readWord r (skipBlanks cs)).map (·.2)
  | _ => .ok cs

/-- Refuse the next token, which has been read to its end by then. -/
def Reading.refuseToken {α : Type} (r : Reading) (t : Token) (reserved : Bool)
    (expected : Option String) (after : List Char) : Reads α := do
  refuse (.unexpected (t.describe reserved) expected) (← r.pass t after)

/-- The reserved words that end a list of commands. -/
def closers : List String := ["then", "else", "elif", "fi", "do", "done", "esac", "\x7d"]

/-- Whether a token ends a list of commands. -/
def Token.ends : Token → Bool
  | .done => true
  | .operator s => s = ")" || s = ";;"
  | .word (some w) => closers.contains w
  | _ => false

/-- Pass over line ends, blanks and comments. -/
def skipLines (fuel : Nat) (cs : List Char) : List Char :=
  match fuel with
  | 0 => cs
  | fuel + 1 =>
    match skipBlanks cs with
    | '\n' :: rest => skipLines fuel rest
    | rest => rest

/-- Pass over all line ends. -/
def skipAll (cs : List Char) : List Char := skipLines (cs.length + 1) cs

/-- A text with the names at its start replaced for which there is a text.  `used` are the names
that were replaced already. -/
def Reading.unalias (r : Reading) (fuel : Nat) (used : List String) (cs : List Char) : List Char :=
  match fuel with
  | 0 => cs
  | fuel + 1 =>
    let start := skipBlanks cs
    match plainWord? start with
    | none => cs
    | some (w, rest) =>
      if used.contains w || reservedWords.contains w then cs
      else
        match r.aliases.find? (·.1 = w) with
        | none => cs
        | some (_, value) =>
          let value := value.toList
          -- After a text with a blank at its end, the next word is replaced as well.
          let rest := if value.getLast?.any isBlankChar then r.unalias fuel used rest else rest
          r.unalias fuel (w :: used) (value ++ rest)

/-! ### Redirections -/

/-- The lines up to one that is the delimiter, and what follows it. -/
def takeHere (stripTabs : Bool) (delimiter : List Char) : (lines : List (List Char)) →
    List (List Char) × List (List Char)
  | [] => ([], [])
  | line :: rest =>
    let line := if stripTabs then line.dropWhile (· = '\t') else line
    if line = delimiter then ([], rest)
    else
      let (body, rest) := takeHere stripTabs delimiter rest
      (line :: body, rest)

/-- The text of a word, as far as it is fixed. -/
def fixedText : Word → List Char
  | [] => []
  | .text cs _ :: rest => cs ++ fixedText rest
  | _ :: rest => fixedText rest

/-- Whether any part of a word is quoted. -/
def isQuotedWord (w : Word) : Bool :=
  w.any fun | .text _ q => q | .parameter _ _ q => q | .output _ q => q | .arithmetic _ q => q

/-- A text that stands in the program after the line that asks for it. -/
def readHere (r : Reading) (fd : Nat) (stripTabs : Bool) (delimiter : Word) (cs : List Char) :
    Reads (Parsed Redirection) := do
  let line := cs.takeWhile (· ≠ '\n')
  let following := (cs.drop (line.length + 1)).splitOn '\n'
  let isLast := cs.length ≤ line.length
  let (body, rest) := takeHere stripTabs (fixedText delimiter)
    (if isLast then [] else following)
  -- Without a last line the text goes up to the end of the program.
  let text := if rest.isEmpty && body.length = (if isLast then [] else following).length then
    ['\n'].intercalate body else body.flatMap (· ++ ['\n'])
  let word ← if isQuotedWord delimiter then pure [Piece.text text true]
    else (readPieces r (4 * text.length + 8) .here 0 text).map (·.1)
  return (.here fd word, line ++ if isLast then [] else '\n' :: ['\n'].intercalate rest)

/-- A redirection, if the text goes on with one. -/
def readRedirection (r : Reading) (cs : List Char) :
    Reads (Option (Redirection × List Char)) := do
  let start := skipBlanks cs
  let (fd?, after) := match start with
    | c :: rest => if c.isDigit then (some (c.toNat - 48), rest) else (none, start)
    | [] => (none, [])
  let made (rest : List Char) (make : Word → Redirection) :
      Reads (Option (Redirection × List Char)) := do
    match nextToken rest with
    | (.word _, _) =>
      let (w, rest) ← readWord r (skipBlanks rest)
      return some (make w, rest)
    | (t, after) => r.refuseToken t false none after
  let here (stripTabs : Bool) (rest : List Char) :
      Reads (Option (Redirection × List Char)) := do
    match nextToken rest with
    | (.word _, _) =>
      let (w, rest) ← readWord r (skipBlanks rest)
      (readHere r (fd?.getD 0) stripTabs w rest).map some
    | (t, after) => r.refuseToken t false none after
  match after with
  | '<' :: '<' :: '-' :: rest => here true rest
  | '<' :: '<' :: rest => here false rest
  | '<' :: '&' :: rest => made rest (.duplicate (fd?.getD 0))
  | '<' :: '>' :: rest => made rest fun w => .input (fd?.getD 0) w true
  | '<' :: rest => made rest fun w => .input (fd?.getD 0) w false
  | '>' :: '>' :: rest => made rest fun w => .output (fd?.getD 1) w true false
  | '>' :: '&' :: rest => made rest (.duplicate (fd?.getD 1))
  | '>' :: '|' :: rest => made rest fun w => .output (fd?.getD 1) w false true
  | '>' :: rest => made rest fun w => .output (fd?.getD 1) w false false
  | _ => return none

/-- All redirections that follow. -/
def readRedirections (r : Reading) (fuel : Nat) (cs : List Char) :
    Reads (Parsed (List Redirection)) :=
  match fuel with
  | 0 => .ok ([], cs)
  | fuel + 1 => do
    match ← readRedirection r cs with
    | none => return ([], cs)
    | some (redirection, rest) =>
      let (more, rest) ← readRedirections r fuel rest
      return (redirection :: more, rest)

/-! ### Commands -/

/-- The name and value of a word that assigns. -/
def assignment? (w : Word) : Option (List Char × Word) :=
  -- The name and the equals sign are single characters that are not quoted.
  let isPlain : Piece → Bool | .text [c] false => c ≠ '=' | _ => false
  let name := (w.takeWhile isPlain).flatMap fun | .text cs _ => cs | _ => []
  match w.dropWhile isPlain with
  | .text ['='] false :: value => if isName name then some (name, value) else none
  | _ => none

/-- Expect a reserved word. -/
def Reading.expectWord (r : Reading) (name : String) (cs : List Char) : Reads (List Char) :=
  match nextToken cs with
  | (t, rest) =>
    if t = .word (some name) then .ok rest
    else r.refuseToken t true (some s!"\"{name}\"") rest

/-- The words and redirections of a simple command.  Assignments come before the first word. -/
def readSimple (r : Reading) (fuel : Nat) (assigning : Bool) (cs : List Char) :
    Reads (Parsed Tree) :=
  match fuel with
  | 0 => .ok (.nothing, cs)
  | fuel + 1 => do
    match ← readRedirection r cs with
    | some (redirection, rest) =>
      let rest := if assigning then r.unalias 64 [] rest else rest
      match ← readSimple r fuel assigning rest with
      | (.simple as ws rs, rest) => return (.simple as ws (redirection :: rs), rest)
      | result => return result
    | none =>
      match (nextToken cs).1 with
      | .word _ =>
        let (w, rest) ← readWord r (skipBlanks cs)
        match (if assigning then assignment? w else none) with
        | some a =>
          match ← readSimple r fuel true (r.unalias 64 [] rest) with
          | (.simple as ws rs, rest) => return (.simple (a :: as) ws rs, rest)
          | result => return result
        | none =>
          match ← readSimple r fuel false rest with
          | (.simple as ws rs, rest) => return (.simple as (w :: ws) rs, rest)
          | result => return result
      | _ => return (.simple [] [] [], cs)

/-- The words of a loop, up to the end of the line. -/
def readWords (r : Reading) (fuel : Nat) (cs : List Char) : Reads (Parsed (List Word)) :=
  match fuel with
  | 0 => .ok ([], cs)
  | fuel + 1 => do
    match nextToken cs with
    | (.word _, _) =>
      let (w, rest) ← readWord r (skipBlanks cs)
      let (ws, rest) ← readWords r fuel rest
      return (w :: ws, rest)
    | (.operator ";", rest) => return ([], rest)
    | (.newline, rest) => return ([], rest)
    | (t, rest) => r.refuseToken t false none rest

/-- A text without the redirection operator at its start. -/
def dropArrow (cs : List Char) : List Char :=
  match (if cs.head?.any Char.isDigit then cs.tail else cs) with
  | '<' :: '<' :: '-' :: rest => rest
  | '<' :: '<' :: rest => rest
  | '<' :: '&' :: rest => rest
  | '<' :: '>' :: rest => rest
  | '<' :: rest => rest
  | '>' :: '>' :: rest => rest
  | '>' :: '&' :: rest => rest
  | '>' :: '|' :: rest => rest
  | '>' :: rest => rest
  | rest => rest

/-- The patterns of an arm, up to its closing bracket.  Whatever stands in the place of a pattern
is taken for one: an operator there matches nothing. -/
def readPatterns (r : Reading) (fuel : Nat) (cs : List Char) : Reads (Parsed (List Word)) :=
  match fuel with
  | 0 => .ok ([], cs)
  | fuel + 1 => do
    let (first, rest) ← match nextToken cs with
      | (.word _, _) => (readWord r (skipBlanks cs)).map fun (w, rest) => ([w], rest)
      | (.redirection, rest) => .ok ([], dropArrow rest)
      | (_, rest) => .ok ([], rest)
    match nextToken rest with
    | (.operator "|", rest) =>
      let (ws, rest) ← readPatterns r fuel rest
      return (first ++ ws, rest)
    | (.operator ")", rest) => return (first, rest)
    | (t, rest) => r.refuseToken t false (some "\")\"") rest

/-- How a list of commands may be made up. -/
inductive ListKind where
  /-- It ends with its line. -/
  | line
  /-- It has a command at least. -/
  | full
  /-- It may be empty. -/
  | loose
  deriving DecidableEq

/-- The special commands, which no function may be named after. -/
def specialNames : List String :=
  [":", ".", "break", "continue", "eval", "exec", "exit", "export", "readonly", "return", "set",
   "shift", "times", "trap", "unset"]

/-- A subshell with these redirections for its own, if a command is nothing but a subshell. -/
def asSubshell? (rs : List Redirection) : Tree → Option Tree
  | .located n t => (asSubshell? rs t).map (.located n)
  | .group t [] => asSubshell? rs t
  | .subshell body _ => some (.subshell body rs)
  | _ => none

/-- Commands in braces.  The redirections of the braces take the place of those of a subshell that
stands in them alone. -/
def grouped (body : Tree) (rs : List Redirection) : Tree :=
  if rs.isEmpty then .group body [] else (asSubshell? rs body).getD (.group body rs)

mutual

/-- Commands with semicolons, ampersands or line ends between them. -/
def readList (r : Reading) (fuel : Nat) (kind : ListKind) (cs : List Char) : Reads (Parsed Tree) :=
  match fuel with
  | 0 => refuse .tooDeep cs
  | fuel + 1 => do
    let cs := if kind = ListKind.line then cs else skipAll cs
    let (t, _) := nextToken cs
    let stops := match t with
      | .newline => true
      | .done => true
      | t => kind = ListKind.loose && t.ends
    if stops then return (.nothing, cs)
    else
      let (left, rest) ← readAndOr r fuel cs
      let more (left : Tree) (rest : List Char) : Reads (Parsed Tree) := do
        let next := if kind = ListKind.line then rest else skipAll rest
        match nextToken next with
        | (.newline, _) => return (left, next)
        | (.done, _) => return (left, next)
        | (t, _) =>
          if kind ≠ ListKind.line && t.ends then return (left, next)
          else
            let (right, rest) ← readList r fuel kind next
            return (.sequence left right, rest)
      match nextToken rest with
      | (.operator ";", rest) => more left rest
      | (.operator "&", rest) => more (.background left) rest
      | (.newline, after) => if kind = ListKind.line then return (left, rest) else more left after
      | (.done, _) => return (left, rest)
      | (t, after) =>
        if kind = ListKind.line then r.refuseToken t true none after else return (left, rest)

/-- Pipelines joined by connectives. -/
def readAndOr (r : Reading) (fuel : Nat) (cs : List Char) : Reads (Parsed Tree) :=
  match fuel with
  | 0 => refuse .tooDeep cs
  | fuel + 1 => do
    let (first, rest) ← readPipeline r fuel cs
    readConnected r fuel first rest

/-- The pipelines after the first, each with its connective. -/
def readConnected (r : Reading) (fuel : Nat) (left : Tree) (cs : List Char) : Reads (Parsed Tree) :=
  match fuel with
  | 0 => refuse .tooDeep cs
  | fuel + 1 => do
    match nextToken cs with
    | (.operator "&&", after) =>
      let (right, rest) ← readPipeline r fuel (skipAll after)
      readConnected r fuel (.conjunction left right) rest
    | (.operator "||", after) =>
      let (right, rest) ← readPipeline r fuel (skipAll after)
      readConnected r fuel (.disjunction left right) rest
    | _ => return (left, cs)

/-- Commands joined by bars, perhaps with a negation in front. -/
def readPipeline (r : Reading) (fuel : Nat) (cs : List Char) : Reads (Parsed Tree) :=
  match fuel with
  | 0 => refuse .tooDeep cs
  | fuel + 1 => do
    let pipe (cs : List Char) : Reads (Parsed Tree) := do
      let (parts, rest) ← readParts r fuel cs
      match parts with
      | [part] => return (part, rest)
      | parts => return (.pipeline parts, rest)
    match nextToken cs with
    | (.word (some "!"), after) =>
      let (body, rest) ← pipe after
      return (.negation body, rest)
    | _ => pipe cs

/-- The commands of a pipeline. -/
def readParts (r : Reading) (fuel : Nat) (cs : List Char) : Reads (Parsed (List Tree)) :=
  match fuel with
  | 0 => refuse .tooDeep cs
  | fuel + 1 => do
    let (part, rest) ← readCommand r fuel cs
    match nextToken rest with
    | (.operator "|", after) =>
      let (parts, rest) ← readParts r fuel (skipAll after)
      return (part :: parts, rest)
    | _ => return ([part], rest)

/-- The parts of a conditional after its first word. -/
def readConditional (r : Reading) (fuel : Nat) (cs : List Char) : Reads (Parsed Tree) :=
  match fuel with
  | 0 => refuse .tooDeep cs
  | fuel + 1 => do
    let (condition, rest) ← readList r fuel .full cs
    let rest ← r.expectWord "then" rest
    let (yes, rest) ← readList r fuel .full rest
    match nextToken rest with
    | (.word (some "elif"), after) =>
      let (no, rest) ← readConditional r fuel after
      return (.conditional condition yes no [], rest)
    | (.word (some "else"), after) =>
      let (no, rest) ← readList r fuel .full after
      return (.conditional condition yes no [], ← r.expectWord "fi" rest)
    | _ => return (.conditional condition yes .nothing [], ← r.expectWord "fi" rest)

/-- The arms of a choice, up to its last word. -/
def readArms (r : Reading) (fuel : Nat) (cs : List Char) :
    Reads (Parsed (List (List Word × Tree))) :=
  match fuel with
  | 0 => refuse .tooDeep cs
  | fuel + 1 => do
    let cs := skipAll cs
    match nextToken cs with
    | (.word (some "esac"), after) => return ([], after)
    | (t, after) =>
      let start := if t = .operator "(" then after else cs
      let (patterns, rest) ← readPatterns r (cs.length + 1) start
      let (body, rest) ← readList r fuel .loose rest
      match nextToken (skipAll rest) with
      | (.operator ";;", after) =>
        let (arms, rest) ← readArms r fuel after
        return ((patterns, body) :: arms, rest)
      | (.word (some "esac"), after) => return ([(patterns, body)], after)
      | (t, after) => r.refuseToken t true (some "\";;\"") after

/-- One command. -/
def readCommand (r : Reading) (fuel : Nat) (cs : List Char) : Reads (Parsed Tree) :=
  match fuel with
  | 0 => refuse .tooDeep cs
  | fuel + 1 => do
    let cs := r.unalias 64 [] cs
    let redirected (make : List Redirection → Tree) (rest : List Char) : Reads (Parsed Tree) := do
      let (rs, rest) ← readRedirections r (rest.length + 1) rest
      return (.located (r.line cs) (make rs), rest)
    let simple : Reads (Parsed Tree) := do
      let start := skipBlanks cs
      let (tree, rest) ← readSimple r (cs.length + 64) true cs
      -- A command is where its first word ends.
      let first ← match nextToken start with
        | (.word _, _) => (readWord r start).map (·.2)
        | _ => pure start
      match tree, nextToken rest with
      | .simple [] [_] [], (.operator "(", after) =>
        match nextToken after with
        | (.operator ")", _) => refuse .badFunctionName after
        | (t, after) => r.refuseToken t false (some "\")\"") after
      | tree, _ => return (.located (r.line first) tree, rest)
    match nextToken cs with
    | (.operator "(", after) =>
      let (body, rest) ← readList r fuel .full after
      match nextToken rest with
      | (.operator ")", rest) => redirected (.subshell body) rest
      | (t, rest) => r.refuseToken t true (some "\")\"") rest
    | (.word none, _) => simple
    | (.redirection, _) => simple
    | (.word (some name), after) =>
      if name = "\x7b" then
        let (body, rest) ← readList r fuel .full after
        redirected (grouped body) (← r.expectWord "\x7d" rest)
      else if name = "if" then
        match ← readConditional r fuel after with
        | (.conditional condition yes no _, rest) =>
          redirected (.conditional condition yes no) rest
        | result => return result
      else if name = "while" || name = "until" then
        let (condition, rest) ← readList r fuel .full after
        let (body, rest) ← readList r fuel .full (← r.expectWord "do" rest)
        redirected (.loop (name = "until") condition body) (← r.expectWord "done" rest)
      else if name = "for" then
        match nextToken after with
        | (.word (some counter), rest) =>
          if !isName counter.toList then refuse .badLoopVariable rest
          else
            let (words, rest) ← match nextToken (skipAll rest) with
              | (.word (some "in"), after) =>
                (readWords r (after.length + 1) after).map fun (ws, rest) => (some ws, rest)
              | (.operator ";", after) => pure (none, after)
              | _ => pure (none, skipAll rest)
            let (body, rest) ← readList r fuel .full (← r.expectWord "do" (skipAll rest))
            redirected (.each counter.toList words body) (← r.expectWord "done" rest)
        | (t, rest) => refuse .badLoopVariable (← r.pass t rest)
      else if name = "case" then
        match nextToken after with
        | (.word _, _) =>
          let (w, rest) ← readWord r (skipBlanks after)
          let rest ← r.expectWord "in" (skipAll rest)
          let (arms, rest) ← readArms r fuel rest
          redirected (.choice w arms) rest
        | (t, rest) => r.refuseToken t false (some "word") rest
      else if reservedWords.contains name && name ≠ "in" then
        r.refuseToken (.word (some name)) true none after
      else if name = "in" then r.refuseToken (.word (some name)) true none after
      else if name.toList.contains '=' && isName (name.toList.takeWhile (· ≠ '=')) then simple
      else
        match nextToken after with
        | (.operator "(", rest) =>
          match nextToken rest with
          | (.operator ")", rest) =>
            if !isName name.toList || specialNames.contains name then
              refuse .badFunctionName rest
            else
              let (body, after) ← readCommand r fuel (skipAll rest)
              return (.located (r.line rest) (.function name.toList body), after)
          | (t, rest) => r.refuseToken t false (some "\")\"") rest
        | _ => simple
    | (t, after) => r.refuseToken t true none after

end

/-- What a text is too short for is enough to read it. -/
def readingFuel (cs : List Char) : Nat := 8 * cs.length + 64

/-- Read the program in a substitution that is `depth` substitutions away from the deepest. -/
def readInner (aliases : List (String × String)) (depth : Nat) (lastLine : Nat) (closing : Bool)
    (cs : List Char) : Reads (Parsed Tree) :=
  match depth with
  | 0 => refuse .tooDeep cs
  | depth + 1 => do
    let r : Reading := ⟨lastLine, aliases, readInner aliases depth⟩
    let (tree, rest) ← readList r (readingFuel cs) .loose cs
    match closing, nextToken rest with
    | true, (.operator ")", rest) => return (tree, rest)
    | true, (t, rest) => r.refuseToken t true (some "\")\"") rest
    -- Between back quotes nothing has to come next, so what no command can hold is left out.
    | false, _ => return (tree, [])

/-- How deep substitutions may be nested. -/
def maxNesting : Nat := 200

/-- The next complete command, up to the end of its line; nothing if the text holds none.
`lastLine` is the number of the last line of the text. -/
def readComplete (aliases : List (String × String)) (lastLine : Nat) (cs : List Char) :
    Reads (Parsed (Option Tree)) := do
  let cs := skipAll cs
  match cs with
  | [] => return (none, [])
  | cs =>
    let r : Reading := ⟨lastLine, aliases, readInner aliases maxNesting⟩
    let (tree, rest) ← readList r (readingFuel cs) .line cs
    match nextToken rest with
    | (.newline, after) => return (some tree, after)
    | (.done, _) => return (some tree, [])
    | (t, after) => r.refuseToken t true none after

end Outflow.Shell
