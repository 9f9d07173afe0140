import Outflow.Host.Digest
import Outflow.Host.Utility.Basic

/-!
# Programs that write and check digests

A line for each file: its digest, two characters, and its name.  Such lines can be read again to
check the files.
-/

namespace Outflow.Utility

/-- A digest that can be written and checked. -/
structure DigestKind where
  /-- What it is called in lines that say so. -/
  label : String
  /-- The octets that it has. -/
  size : Nat
  digest : Bytes → Bytes

namespace DigestKind

/-- The digest MD5. -/
def md5 : DigestKind := ⟨"MD5", 16, Digest.md5⟩

/-- The digest SHA-1. -/
def sha1 : DigestKind := ⟨"SHA1", 20, Digest.sha1⟩

/-- One of the digests SHA-2. -/
def sha2 (label : String) (h : Digest.Sha2) : DigestKind := ⟨label, h.size, h.digest⟩

/-- A name with its newlines, returns and backslashes escaped, and whether there were any. -/
def escapedName (name : String) : String × Bool :=
  let cs := name.toList.flatMap fun c =>
    match c with
    | '\\' => ['\\', '\\']
    | '\n' => ['\\', 'n']
    | '\r' => ['\\', 'r']
    | c => [c]
  (String.ofList cs, cs.length ≠ name.length)

/-- The name that an escaped one stands for. -/
def unescapedName : List Char → List Char
  | '\\' :: 'n' :: cs => '\n' :: unescapedName cs
  | '\\' :: 'r' :: cs => '\r' :: unescapedName cs
  | '\\' :: c :: cs => c :: unescapedName cs
  | c :: cs => c :: unescapedName cs
  | [] => []

/-- The line for a file. -/
def line (k : DigestKind) (tagged : Bool) (mark : Char) (name : String) (bytes : Bytes) :
    String :=
  let hex := Digest.hexText (k.digest bytes)
  let (name, isEscaped) := escapedName name
  let front := if isEscaped then "\\" else ""
  if tagged then s!"{front}{k.label} ({name}) = {hex}"
  else front ++ hex ++ String.ofList [' ', mark] ++ name

/-- Whether some characters spell a digest. -/
def isSpelled (k : DigestKind) (cs : List Char) : Bool :=
  cs.length = 2 * k.size && cs.all fun c => c.isDigit || ('a' ≤ c.toLower && c.toLower ≤ 'f')

/-- The digest and the name that a line tells. -/
def readLine? (k : DigestKind) (text : String) : Option (String × String) :=
  let cs := text.toList.dropWhile fun c => c = ' ' || c = '\t'
  let (isEscaped, cs) := match cs with
    | '\\' :: cs => (true, cs)
    | cs => (false, cs)
  let name (cs : List Char) : String :=
    String.ofList (if isEscaped then unescapedName cs else cs)
  let front := (k.label ++ " (").toList
  if front.isPrefixOf cs then
    let back := cs.reverse.takeWhile (· ≠ ' ')
    let hex := back.reverse
    let inner := (cs.drop front.length).reverse.drop (back.length + 4) |>.reverse
    if k.isSpelled hex && (cs.reverse.drop back.length).take 4 = " = )".toList then
      some (String.ofList hex, name inner)
    else none
  else
    let hex := cs.takeWhile (· ≠ ' ')
    match cs.drop hex.length with
    | ' ' :: mark :: c :: rest =>
      if k.isSpelled hex && (mark = ' ' || mark = '*') then
        some (String.ofList hex, name (c :: rest))
      else none
    | _ => none

end DigestKind

/-- What came of checking files. -/
structure Checking where
  /-- Newest first. -/
  pieces : List Piece
  right : Nat
  wrong : Nat
  unreadable : Nat
  misformed : Nat

/-- Check the files that some lines tell of. -/
def checkLines (o : Occasion) (k : DigestKind) (flags : Flags) (lines : List String) : Checking :=
  let quiet := flags.has 'q' || flags.has 's'
  let tell (c : Checking) (text : String) : Checking :=
    { c with pieces := .out (.ofRaw (text ++ "\n")) :: c.pieces }
  lines.foldl
    (fun c text =>
      if text.toList.head? = some '#' || text = "" then c
      else
        match k.readLine? text with
        | none => { c with misformed := c.misformed + 1 }
        | some (hex, name) =>
          match openFile o name with
          | .error e =>
            if flags.has 'm' && e = .os 2 then c
            else
              let c := { c with
                pieces := grumble o (fileFault name e) :: c.pieces, unreadable := c.unreadable + 1 }
              if flags.has 's' then c else tell c (name ++ ": FAILED open or read")
          | .ok flow =>
            if Digest.hexText (k.digest flow.toBytes) = hex.toLower then
              let c := { c with right := c.right + 1 }
              if quiet then c else tell c (name ++ ": OK")
            else
              let c := { c with wrong := c.wrong + 1 }
              if flags.has 's' then c else tell c (name ++ ": FAILED"))
    ⟨[], 0, 0, 0, 0⟩

/-- What is said about a number of things that went wrong. -/
def warning (o : Occasion) (n : Nat) (one many : String) : List Piece :=
  if n = 0 then []
  else
    let what := if n = 1 then one else many
    [grumble o s!"WARNING: {n} {what}"]

/-- Check the lines of a file. -/
def checkFile (o : Occasion) (k : DigestKind) (flags : Flags) (path : String) :
    List Piece × Bool :=
  match openFile o path with
  | .error e => ([grumble o (fileFault path e)], false)
  | .ok flow =>
    let c := checkLines o k flags ((bareLines flow).map Bytes.toRaw)
    let name := if path = "-" then shellWord "standard input" else shellWord path
    if c.right + c.wrong + c.unreadable = 0 then
      if flags.has 'm' && c.misformed = 0 then
        ([grumble o s!"{name}: no file was verified"], false)
      else ([grumble o s!"{name}: no properly formatted checksum lines found"], false)
    else
      let notes := if flags.has 's' then []
        else
          warning o c.misformed "line is improperly formatted" "lines are improperly formatted" ++
          warning o c.unreadable "listed file could not be read"
            "listed files could not be read" ++
          warning o c.wrong "computed checksum did NOT match" "computed checksums did NOT match"
      (c.pieces.reverse ++ notes,
        c.wrong + c.unreadable = 0 && !(flags.has 'S' && 0 < c.misformed))

/-- Write or check digests. -/
def digestProgram (k : DigestKind) (o : Occasion) : Effect :=
  withFlags o 1 "bctwzqsSmT"
    [("binary", 'b'), ("check", 'c'), ("text", 't'), ("warn", 'w'), ("zero", 'z'),
      ("quiet", 'q'), ("status", 's'), ("strict", 'S'), ("ignore-missing", 'm'), ("tag", 'T')]
    fun flags =>
      let paths := sources flags.operands
      if flags.has 'c' then
        let results := paths.map (checkFile o k flags)
        { finish o (if results.all (·.2) then 0 else 1) (results.flatMap (·.1)) with
          rest := remaining o paths }
      else
        let mark := if flags.last? ['b', 't'] = some 'b' then '*' else ' '
        let ending := if flags.has 'z' then "\x00" else "\n"
        let results := paths.map fun path =>
          match openFile o path with
          | .error e => (grumble o (fileFault path e), false)
          | .ok flow =>
            (.out (.ofRaw (k.line (flags.has 'T') mark path flow.toBytes ++ ending)), true)
        { finish o (if results.all (·.2) then 0 else 1) (results.map (·.1)) with
          rest := remaining o paths }

/-- Write a line for each file, with the name if files are named. -/
def sumProgram (o : Occasion) (operands : List String) (row : Bytes → String) : Effect :=
  let paths := sources operands
  let results := paths.map fun path =>
    match openFile o path with
    | .error e => (grumble o (fileFault path e), false)
    | .ok flow =>
      let name := if operands.isEmpty then "" else " " ++ path
      (.out (.ofRaw (row flow.toBytes ++ name ++ "\n")), true)
  { finish o (if results.all (·.2) then 0 else 1) (results.map (·.1)) with
    rest := remaining o paths }

/-- Write cyclic redundancy checks and sizes. -/
def cksum (o : Occasion) : Effect :=
  withFlags o 1 "" [] fun flags =>
    sumProgram o flags.operands fun bytes => s!"{Digest.crc bytes} {bytes.length}"

/-- Write short sums and sizes in blocks. -/
def sum (o : Occasion) : Effect :=
  withFlags o 1 "rs" [("sysv", 's')] fun flags =>
    if flags.last? ['r', 's'] = some 's' then
      sumProgram o flags.operands fun bytes =>
        s!"{Digest.plainSum bytes} {(bytes.length + 511) / 512}"
    else
      sumProgram o flags.operands fun bytes =>
        let digits := toString (Digest.turningSum bytes)
        let blocks := toString ((bytes.length + 1023) / 1024)
        "".pushn '0' (5 - digits.length) ++ digits ++ " " ++ padLeft 5 blocks

/-- The programs that write digests, by name. -/
def digestPrograms : List (String × (Occasion → Effect)) :=
  [("md5sum", digestProgram .md5), ("sha1sum", digestProgram .sha1),
   ("sha224sum", digestProgram (.sha2 "SHA224" .sha224)),
   ("sha256sum", digestProgram (.sha2 "SHA256" .sha256)),
   ("sha384sum", digestProgram (.sha2 "SHA384" .sha384)),
   ("sha512sum", digestProgram (.sha2 "SHA512" .sha512)), ("cksum", cksum), ("sum", sum)]

end Outflow.Utility
