import Outflow.Host.Files

/-!
# Finding programs

A name with a slash is the path of a program.  Any other name is looked for in the directories
of a search path, one after the other; a file that may not be executed is passed over, and only
makes a difference to the error when nothing better is found.
-/

namespace Outflow

/-- What can be executed. -/
inductive Program where
  /-- A program that the machine comes with, by its name. -/
  | utility (name : String)
  /-- A file that holds a text. -/
  | script (text : Bytes)
  deriving Repr

namespace Program

/-- The program at a path. -/
def ofPath (fs : Files) (dir : List String) (path : String) : Except IoError Program := do
  match ← fs.look dir path with
  | .program name => return .utility name
  | .file bytes mode =>
    if (FileNode.file bytes mode).isExecutable then return .script bytes else .error (.os 13)
  | _ => .error (.os 13)

/-- The directories that are searched unless the environment names others. -/
def commonPath : String := "/bin:/usr/bin"

/-- The paths at which a name is looked for. -/
def candidates (searchPath name : String) : List String :=
  if name.toList.contains '/' then [name]
  else
    (searchPath.toList.splitOn ':').map fun dir =>
      if dir.isEmpty then name else String.ofList dir ++ "/" ++ name

/-- Find a program, and the path at which it was found. -/
def find (fs : Files) (dir : List String) (searchPath name : String) :
    Except IoError (String × Program) :=
  if name = "" then .error .noSuchFile
  else
    let tried := (candidates searchPath name).map fun path => (path, ofPath fs dir path)
    match tried.findSome? fun (path, r) => r.toOption.map (path, ·) with
    | some found => .ok found
    | none =>
      -- Without a slash only a lack of permission is told from the absence of the file.
      let errors := tried.filterMap fun (_, r) =>
        match r with | .error e => some e | .ok _ => none
      if name.toList.contains '/' then .error (errors.headD .noSuchFile)
      else if errors.contains (.os 13) then .error (.os 13)
      else .error .noSuchFile

/-- The longest argument, or variable with its value, in octets. -/
def maxText : Nat := 131071

/-- The room for all arguments and variables, in octets. -/
def maxTexts : Nat := 2097152

/-- Whether arguments and variables are too much to start a program with. -/
def isTooMuch (args : List String) (env : List (String × String)) : Bool :=
  let sizes := args.map String.length ++ env.map fun (k, v) => k.length + 1 + v.length
  sizes.any (maxText < ·) || maxTexts < sizes.foldl (fun total n => total + n + 9) 0

/-- The program that a text names in its first line to be read by, and one argument for it. -/
def interpreter? (text : Bytes) : Option (String × Option String) :=
  match text with
  | 35 :: 33 :: rest =>
    let line := String.ofList ((rest.takeWhile (· ≠ Bytes.newline)).map fun b =>
      Char.ofNat b.toNat)
    let isBlank (c : Char) : Bool := c = ' ' || c = '\t'
    let words := line.toList.dropWhile isBlank
    let path := words.takeWhile (!isBlank ·)
    let more := ((words.drop path.length).dropWhile isBlank).reverse.dropWhile isBlank |>.reverse
    if path.isEmpty then none
    else some (String.ofList path, if more.isEmpty then none else some (String.ofList more))
  | _ => none

/-- A small program that is to be started. -/
structure Call where
  /-- Which one. -/
  utility : String
  /-- What it is called, as it will call itself. -/
  name : String
  args : List String

/-- How a program is started that was found at a path.  A text is handed to the program that it
names, through at most so many such texts. -/
def call (fs : Files) (dir : List String) (path name : String) (args : List String) :
    (depth : Nat) → Program → Except IoError Call
  | _, .utility found => .ok ⟨found, name, args⟩
  | 0, .script _ => .error (.os 40)
  | depth + 1, .script text =>
    match interpreter? text with
    | none => .error (.os 8)
    | some (reader, argument) => do
      call fs dir reader reader (argument.toList ++ path :: args) depth (← ofPath fs dir reader)

/-- How many texts may name each other. -/
def maxReaders : Nat := 5

end Program

end Outflow
