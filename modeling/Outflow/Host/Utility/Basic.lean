import Outflow.Host.Files
import Outflow.Host.Flags
import Outflow.Host.Quoting

/-!
# What a small program does

A small program goes from an `Occasion`, which is its arguments, its input and the files, to an
`Effect`: what it writes, its exit status, the time it takes, and the files as it leaves them.
Arguments are in raw form and do not include the name of the program.
-/

namespace Outflow

/-- What a small program starts with. -/
structure Occasion where
  /-- What the program was called. -/
  name : String
  args : List String
  /-- The input, or why there is none. -/
  input : Except IoError Flow
  /-- Whether the input is a file, in which a reader can go back. -/
  isSeekable : Bool
  files : Files
  dir : List String
  env : List (String × String)
  /-- The permission bits that new files do not get. -/
  umask : Nat
  /-- The time, in microseconds from the beginning of 1970. -/
  micros : Nat
  /-- The files that the input comes from and that the output goes to. -/
  inputPlace : Option (List String)
  outputPlace : Option (List String)

/-- Something written. -/
inductive Piece where
  | out (flow : Flow)
  | err (bytes : Bytes)

namespace Piece

/-- How much is written. -/
def size : Piece → Nat
  | out flow => flow.bytes.length
  | err bytes => bytes.length

/-- What is left of some pieces after the first octets. -/
def dropAll (n : Nat) : List Piece → List Piece
  | [] => []
  | p :: rest =>
    if p.size ≤ n then
      match p with
      | out ⟨_, _ :: _⟩ => p :: rest
      | _ => dropAll (n - p.size) rest
    else
      match p with
      | out flow => out (flow.drop n) :: rest
      | err bytes => err (bytes.drop n) :: rest

/-- What is written over and over again where input has no end. -/
def repeated (pieces : List Piece) : List Piece :=
  pieces.map fun
    | out ⟨bytes, []⟩ => out ⟨bytes, bytes⟩
    | p => p

end Piece

/-- What a small program leaves of its input. -/
structure Remainder where
  /-- What it did not read. -/
  flow : Flow
  /-- How many octets it had to wait for; without a number, for the end of the input. -/
  needed : Option Nat

/-- What a small program does. -/
structure Effect where
  /-- What it writes, in order. -/
  pieces : List Piece
  status : Nat
  micros : Nat
  rest : Remainder
  files : Files

namespace Utility

/-- The microseconds that it takes to start a program. -/
def startup : Nat := 400

/-- A time that is longer than anything is looked at. -/
def forever : Nat := 1000000000000

/-- The input, or nothing. -/
def inputFlow (o : Occasion) : Flow := o.input.toOption.getD .empty

/-- All of the input. -/
def untouched (o : Occasion) : Remainder := ⟨inputFlow o, some 0⟩

/-- A program that writes something and ends with a status, leaving its input alone. -/
def finish (o : Occasion) (status : Nat) (pieces : List Piece) : Effect :=
  ⟨pieces, status, startup, untouched o, o.files⟩

/-- A program that ends with a status and nothing else. -/
def silent (o : Occasion) (status : Nat) : Effect := finish o status []

/-- A program that writes some output and ends well. -/
def write (o : Occasion) (out : Flow) : Effect := finish o 0 [.out out]

/-- A program that writes a text. -/
def print (o : Occasion) (text : String) : Effect := write o (.ofRaw text)

/-- A program that writes lines. -/
def printLines (o : Occasion) (ls : List String) : Effect :=
  print o (String.join (ls.map (· ++ "\n")))

/-- A line among the complaints of a program. -/
def grumble (o : Occasion) (message : String) : Piece :=
  .err (Bytes.ofRaw s!"{o.name}: {message}\n")

/-- A program that complains. -/
def complain (o : Occasion) (status : Nat) (message : String) : Effect :=
  finish o status [grumble o message]

/-- Where to read more about the use of a program. -/
def hint (o : Occasion) : String := s!"Try '{o.name} --help' for more information."

/-- A program that was used wrongly. -/
def misuse (o : Occasion) (status : Nat) (message : String) : Effect :=
  complain o status s!"{message}\n{hint o}"

/-- Add to the status of a program that goes on after a fault. -/
def worsen (status : Nat) (bad : Bool) (e : Effect) : Effect :=
  if bad then { e with status := max e.status status } else e

/-- Run a program with options, or complain about them. -/
def withFlags (o : Occasion) (status : Nat) (letters : String) (words : List (String × Char))
    (run : Flags → Effect) : Effect :=
  match Grammar.read ⟨letters.toList, words, true⟩ o.args with
  | .ok flags => run flags
  | .error message => misuse o status message

/-- The text of an error, as programs report it. -/
def errorText (e : IoError) : String :=
  match e with
  | .os n => (errnoMeaning n).2
  | e => e.message

/-! ### Input -/

/-- Open a file to read it, or the input for a lone hyphen. -/
def openFile (o : Occasion) (path : String) : Except IoError Flow :=
  if path = "-" then o.input
  else
    match o.files.look o.dir path with
    | .error e => .error e
    | .ok (.directory _) => .error (.os 21)
    | .ok .zeroDevice => .ok .zeros
    | .ok .fullDevice => .ok .zeros
    | .ok (.descriptor 0) => o.input
    | .ok node => .ok (.ofBytes (node.contents?.getD []))

/-- Whether a path leads to the file that the output goes to. -/
def isOwnOutput (o : Occasion) (path : String) : Bool :=
  let place := if path = "-" then o.inputPlace else (o.files.resolve o.dir path).toOption
  place.isSome && place == o.outputPlace

/-- Whether a path leads to a directory. -/
def isDirectory (o : Occasion) (path : String) : Bool :=
  match o.files.look o.dir path with
  | .ok node => node.isDirectory
  | .error _ => false

/-- Why a path does not lead to a directory. -/
def noDirectory (o : Occasion) (path : String) : String :=
  match o.files.look o.dir path with
  | .ok _ => "Not a directory"
  | .error e => errorText e

/-- Whether a path leads to the input. -/
def isInput (o : Occasion) (path : String) : Bool :=
  path = "-" ||
    match o.files.look o.dir path with
    | .ok (.descriptor 0) => true
    | _ => false

/-- The input that is left to others when some octets of it were needed.  Without going back, all
that was read with them is lost, a block at a time. -/
def leftover (o : Occasion) (block used : Nat) : Remainder :=
  let taken := if o.isSeekable then used else (used + block - 1) / block * block
  ⟨(inputFlow o).drop taken, some used⟩

/-- The files to read: the operands, or else the input. -/
def sources (paths : List String) : List String := if paths.isEmpty then ["-"] else paths

/-- Files that were read, one after the other, each with its path, and complaints about the
others. -/
structure Gathered where
  read : List (String × Flow)
  complaints : List Piece

/-- Read files.  `describe` words the complaint about one that cannot be read. -/
def gatherWith (o : Occasion) (paths : List String) (describe : String → IoError → String) :
    Gathered :=
  paths.foldl
    (fun g path =>
      match openFile o path with
      | .ok flow => { g with read := g.read ++ [(path, flow)] }
      | .error e => { g with complaints := g.complaints ++ [grumble o (describe path e)] })
    ⟨[], []⟩

/-- The common complaint about a file. -/
def fileFault (path : String) (e : IoError) : String :=
  s!"{shellWord path}: {errorText e}"

/-- Read files with the common complaint. -/
def gather (o : Occasion) (paths : List String) : Gathered := gatherWith o paths fileFault

/-- All that was read, as one. -/
def Gathered.flow (g : Gathered) : Flow := (g.read.map (·.2)).foldl Flow.append .empty

/-- The input that is left when some paths have been read. -/
def remaining (o : Occasion) (paths : List String) : Remainder :=
  if paths.any (isInput o) then ⟨.empty, none⟩ else untouched o

/-- A program that turns its files, or else its input, into output. -/
def filter (o : Occasion) (paths : List String) (f : Flow → Flow) : Effect :=
  let paths := sources paths
  let g := gather o paths
  { finish o (if g.complaints.isEmpty then 0 else 1) (g.complaints ++ [.out (f g.flow)]) with
    rest := remaining o paths }

/-- Lines without their newlines. -/
def bareLines (flow : Flow) : List Bytes :=
  (Flow.lines flow.toBytes).map fun line =>
    if line.getLast? = some Bytes.newline then line.dropLast else line

/-- Some lines, each with a newline. -/
def ofLines (ls : List Bytes) : Flow := .ofBytes (ls.flatMap (· ++ [Bytes.newline]))

/-- Apply a function to each line, newlines apart. -/
def mapLines (f : Bytes → Bytes) (flow : Flow) : Flow :=
  .ofBytes ((Flow.lines flow.toBytes).flatMap fun line =>
    if line.getLast? = some Bytes.newline then f line.dropLast ++ [Bytes.newline] else f line)

/-- A program that maps each line. -/
def lineFilter (o : Occasion) (paths : List String) (f : List Bytes → List Bytes) : Effect :=
  filter o paths fun flow => ofLines (f (bareLines flow))

/-! ### Octets and numbers -/

/-- Whether an octet is white space. -/
def isSpaceOctet (b : UInt8) : Bool := b = 32 || (9 ≤ b && b ≤ 13)

/-- Whether an octet is a blank. -/
def isBlankOctet (b : UInt8) : Bool := b = 32 || b = 9

/-- The order of octets. -/
def octetsLe : Bytes → Bytes → Bool
  | [], _ => true
  | _ :: _, [] => false
  | a :: as, b :: bs => if a < b then true else if b < a then false else octetsLe as bs

/-- The order of the octets of two texts. -/
def textLe (a b : String) : Bool := octetsLe (Bytes.ofRaw a) (Bytes.ofRaw b)

/-- Arguments with blanks between them. -/
def joined (args : List String) : String := " ".intercalate args

/-- The number that a text of digits stands for. -/
def readNat (s : String) : Option Nat :=
  if s ≠ "" ∧ s.toList.all Char.isDigit then s.toNat? else none

/-- A text with blanks in front up to a width. -/
def padLeft (width : Nat) (s : String) : String := "".pushn ' ' (width - s.length) ++ s

/-- The factor that the letters after a number stand for. -/
def unitFactor? (cs : List Char) : Option Nat :=
  let power (c : Char) : Option Nat :=
    match c.toUpper with
    | 'K' => some 1
    | 'M' => some 2
    | 'G' => some 3
    | 'T' => some 4
    | 'P' => some 5
    | 'E' => some 6
    | _ => none
  match cs with
  | [] => some 1
  | ['b'] => some 512
  | ['c'] => some 1
  | ['w'] => some 2
  | [c] => (power c).map (Nat.pow 1024)
  | [c, 'B'] => (power c).map (Nat.pow 1000)
  | [c, 'i', 'B'] => (power c).map (Nat.pow 1024)
  | _ => none

/-- A size: a number, perhaps with letters for a unit. -/
def readSize (s : String) : Option Nat :=
  let digits := s.toList.takeWhile Char.isDigit
  let unit := s.toList.drop digits.length
  if digits.isEmpty then if unit.isEmpty then none else unitFactor? unit
  else (unitFactor? unit).map fun factor => (String.ofList digits).toNat?.getD 0 * factor

/-! ### Paths and files -/

/-- The text of an absolute path. -/
def pathText (path : List String) : String := "/" ++ "/".intercalate path

/-- The last name of a path; slashes at its end do not count. -/
def lastName (path : String) : String :=
  match ((Files.names path).filter (· ≠ "")).getLast? with
  | some name => name
  | none => if path.toList.contains '/' then "/" else path

/-- A path below another one. -/
def below (path name : String) : String :=
  if path.toList.getLast? = some '/' then path ++ name else path ++ "/" ++ name

/-- The permission bits of a new file. -/
def newMode (o : Occasion) : Nat := 0o666 - (0o666 &&& o.umask)

/-- The permission bits of a new directory. -/
def newDirMode (o : Occasion) : Nat := 0o777 - (0o777 &&& o.umask)

/-- The names in a directory in order, without those that begin with a dot. -/
def visibleNames (files : Files) (dir : List String) (all : Bool) : List String :=
  ((files.children dir).filter fun name => all || name.toList.head? ≠ some '.').mergeSort textLe

/-- Where output can go. -/
inductive Target where
  | out
  | err
  | void
  /-- A file at an absolute path. -/
  | file (path : List String)
  /-- A device without room. -/
  | full

/-- Open a file to write into it. -/
def openTarget (o : Occasion) (files : Files) (path : String) : Except IoError Target := do
  let found ← files.resolveNew o.dir path
  match files.node? found with
  | some (.directory _) => .error (.os 21)
  | some (.descriptor 1) => .ok .out
  | some (.descriptor 2) => .ok .err
  | some (.descriptor _) => .error (.os 6)
  | some .fullDevice => .ok .full
  | some .nullDevice => .ok .void
  | some .zeroDevice => .ok .void
  | some _ => .ok (.file found)
  | none => if path.toList.getLast? = some '/' then .error (.os 21) else .ok (.file found)

/-- Put octets into a file, whose permission bits stay as they are. -/
def store (o : Occasion) (files : Files) (path : List String) (append : Bool) (bytes : Bytes) :
    Files :=
  match files.node? path with
  | some (.file old mode) => files.put path (.file (if append then old ++ bytes else bytes) mode)
  | _ => files.put path (.file bytes (newMode o))

/-- The state of a program that goes through its operands one by one. -/
structure Progressing where
  files : Files
  /-- Newest first. -/
  pieces : List Piece
  bad : Bool

/-- Go through the operands of a program that changes files. -/
def change (o : Occasion) (paths : List String)
    (f : Files → String → Except String (Files × List Piece)) : Effect :=
  let p := paths.foldl
    (fun (p : Progressing) path =>
      match f p.files path with
      | .ok (files, pieces) => { p with files, pieces := pieces.reverse ++ p.pieces }
      | .error message => { p with pieces := grumble o message :: p.pieces, bad := true })
    ⟨o.files, [], false⟩
  { finish o (if p.bad then 1 else 0) p.pieces.reverse with files := p.files }

end Utility

end Outflow
