import Outflow.Toml.Scalar

/-!
# Reading TOML documents

`Toml.read?` gives the root table of a document, or nothing if the text is not one: a line that
is no line, a key that is given twice, a table that is opened twice or added to where that is not
allowed, or brackets nested too deep.
-/

namespace Outflow.Toml

/-- How deep brackets and braces may be nested. -/
def maxDepth : Nat := 80

/-- How many parts a key may have. -/
def maxKeyParts : Nat := 80

/-! ### What stands between values -/

/-- Pass over spaces, line ends and comments. -/
def skipTrivia (inComment : Bool) : List Char → Option (List Char)
  | [] => some []
  | '\n' :: rest => skipTrivia false rest
  | '\r' :: '\n' :: rest => skipTrivia false rest
  | c :: rest =>
    if inComment then if isTextChar c then skipTrivia true rest else none
    else if isSpace c then skipTrivia false rest
    else if c = '#' then skipTrivia true rest
    else some (c :: rest)

/-- Pass over spaces. -/
def skipSpaces (cs : List Char) : List Char := cs.dropWhile isSpace

/-- Pass over what may follow a value on its line, and the end of the line. -/
def endLine? (cs : List Char) : Option (List Char) :=
  let rest := match skipSpaces cs with
    | '#' :: comment => comment.dropWhile isTextChar
    | rest => rest
  match rest with
  | [] => some []
  | rest => newline? rest

/-! ### Keys -/

/-- What may stand in a key without quotes. -/
def isBareKeyChar (c : Char) : Bool := c.isAlphanum || c = '_' || c = '-'

/-- One part of a key. -/
def readSimpleKey : List Char → Option (String × List Char)
  | '"' :: rest => (readBasic rest).map fun (s, rest) => (String.ofList s, rest)
  | '\'' :: rest => (readLiteral rest).map fun (s, rest) => (String.ofList s, rest)
  | cs =>
    let key := cs.takeWhile isBareKeyChar
    if key.isEmpty then none else some (String.ofList key, cs.dropWhile isBareKeyChar)

/-- A key of up to `fuel` parts with dots between them: the parts before the last, the last, and
what follows. -/
def readKey (fuel : Nat) (cs : List Char) : Option (List String × String × List Char) :=
  match fuel with
  | 0 => none
  | fuel + 1 =>
    match readSimpleKey (skipSpaces cs) with
    | none => none
    | some (part, rest) =>
      match skipSpaces rest with
      | '.' :: rest =>
        (readKey fuel rest).map fun (path, key, rest) => (part :: path, key, rest)
      | rest => some ([], part, rest)

/-! ### Values -/

mutual

/-- A value, inside brackets and braces nested `depth` deep. -/
def readValue (fuel depth : Nat) (cs : List Char) : Option (Value × List Char) :=
  match fuel with
  | 0 => none
  | fuel + 1 =>
    match cs with
    | '[' :: rest =>
      if maxDepth ≤ depth then none
      else (readElements fuel (depth + 1) rest).map fun (vs, rest) => (.array vs, rest)
    | '\x7b' :: rest =>
      if maxDepth ≤ depth then none
      else (readEntries fuel (depth + 1) [] rest).map fun (es, rest) => (.table .inlined es, rest)
    | _ => readScalar cs

/-- The elements up to a closing bracket.  A comma may follow the last one. -/
def readElements (fuel depth : Nat) (cs : List Char) : Option (List Value × List Char) :=
  match fuel with
  | 0 => none
  | fuel + 1 =>
    match skipTrivia false cs with
    | none => none
    | some (']' :: rest) => some ([], rest)
    | some cs =>
      match readValue fuel depth cs with
      | none => none
      | some (v, rest) =>
        match skipTrivia false rest with
        | some (']' :: rest) => some ([v], rest)
        | some (',' :: rest) => (readElements fuel depth rest).map fun (vs, rest) => (v :: vs, rest)
        | _ => none

/-- The entries up to a closing brace, after those read before. -/
def readEntries (fuel depth : Nat) (es : Entries) (cs : List Char) :
    Option (Entries × List Char) :=
  match fuel with
  | 0 => none
  | fuel + 1 =>
    match skipTrivia false cs with
    | none => none
    | some ('\x7d' :: rest) => some (es, rest)
    | some cs =>
      match readKey maxKeyParts cs with
      | none => none
      | some (path, key, rest) =>
        match skipTrivia false rest with
        | some ('=' :: rest) =>
          match (skipTrivia false rest).bind (readValue fuel depth) with
          | none => none
          | some (v, rest) =>
            match es.assign? .headed path key v, skipTrivia false rest with
            | some es, some ('\x7d' :: rest) => some (es, rest)
            | some es, some (',' :: rest) => readEntries fuel depth es rest
            | _, _ => none
        | _ => none

end

/-! ### Documents -/

/-- A header. -/
structure Header where
  /-- The keys on the way. -/
  path : List String
  key : String
  /-- Whether it stands in double brackets. -/
  repeated : Bool
  deriving DecidableEq, Repr

/-- A document that has been read in part. -/
structure Progress where
  /-- All tables but the one that is open. -/
  root : Entries
  /-- The header of the open table; none before the first header. -/
  header : Option Header
  /-- The entries of the open table. -/
  current : Entries

namespace Progress

/-- Nothing has been read. -/
def start : Progress := ⟨[], none, []⟩

/-- The root with the open table in its place. -/
def close? (p : Progress) : Option Entries :=
  match p.header with
  | none => some p.current
  | some h =>
    if h.repeated then p.root.append? h.path h.key p.current
    else p.root.close? h.path h.key p.current

/-- Open the table of a header. -/
def open? (p : Progress) (h : Header) : Option Progress := do
  let root ← p.close?
  let current ← if h.repeated then some [] else root.opened? h.path h.key
  some ⟨root, some h, current⟩

/-- Put a value into the open table. -/
def assign? (p : Progress) (path : List String) (key : String) (v : Value) : Option Progress :=
  (p.current.assign? .headed path key v).map fun current => { p with current }

end Progress

/-- A header, after its first bracket. -/
def readHeader : List Char → Option (Header × List Char)
  | '[' :: cs =>
    match readKey maxKeyParts cs with
    | some (path, key, ']' :: ']' :: rest) => some (⟨path, key, true⟩, rest)
    | _ => none
  | cs =>
    match readKey maxKeyParts cs with
    | some (path, key, ']' :: rest) => some (⟨path, key, false⟩, rest)
    | _ => none

/-- The lines of a document, after those read before. -/
def readLines (fuel : Nat) (p : Progress) (cs : List Char) : Option Progress :=
  match fuel with
  | 0 => none
  | fuel + 1 =>
    match skipTrivia false cs with
    | none => none
    | some [] => some p
    | some ('[' :: rest) => do
      let (header, rest) ← readHeader rest
      readLines fuel (← p.open? header) (← endLine? rest)
    | some cs => do
      let (path, key, rest) ← readKey maxKeyParts cs
      match skipSpaces rest with
      | '=' :: rest =>
        let (v, rest) ← readValue fuel 0 (skipSpaces rest)
        readLines fuel (← p.assign? path key v) (← endLine? rest)
      | _ => none

/-- A text without the mark that may stand in front of it. -/
def withoutMark : List Char → List Char
  | '\uFEFF' :: cs => cs
  | cs => cs

/-- The root table of a document. -/
def read? (s : String) : Option Entries :=
  (readLines (2 * s.length + 2) .start (withoutMark s.toList)).bind (·.close?)

end Outflow.Toml
