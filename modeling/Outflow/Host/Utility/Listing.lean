import Outflow.Host.Mode
import Outflow.Host.Utility.Basic

/-!
# Programs that list files and tell about them

The names in directories, with marks for the kinds of files or in long lines, and what is known
about single files.  Files have no times; where one is shown it is the beginning of 1970.
-/

namespace Outflow.Utility

/-! ### Single files -/

/-- What a file is called by its kind. -/
def kindText : FileNode → String
  | .directory _ => "directory"
  | .file [] _ => "regular empty file"
  | .file _ _ => "regular file"
  | .program _ => "regular file"
  | .link _ => "symbolic link"
  | .fifo _ => "fifo"
  | _ => "character special file"

/-- The letter of a kind of file. -/
def kindLetter : FileNode → String
  | .directory _ => "d"
  | .link _ => "l"
  | .fifo _ => "p"
  | .nullDevice => "c"
  | .zeroDevice => "c"
  | .fullDevice => "c"
  | _ => "-"

/-- The size of a file. -/
def sizeOf : FileNode → Nat
  | .file bytes _ => bytes.length
  | .link target => target.utf8ByteSize
  | .directory _ => 4096
  | _ => 0

/-- The kind and the permission bits of a file in letters. -/
def modeText (node : FileNode) : String := kindLetter node ++ Mode.letters node.mode

/-- The number of names of a file: a directory has one more for itself and for each one in it. -/
def linkCount (files : Files) (place : List String) (node : FileNode) : Nat :=
  if node.isDirectory then
    2 + ((files.children place).filter fun name => files.isDirectory (place ++ [name])).length
  else 1

/-- Fill in a format about a file. -/
def describeFile (files : Files) (place : List String) (path : String) (node : FileNode) :
    List Char → String
  | '%' :: c :: rest =>
    let text := match c with
      | 'n' => path
      | 's' => toString (sizeOf node)
      | 'a' => Mode.octal 1 node.mode
      | 'A' => modeText node
      | 'F' => kindText node
      | 'h' => toString (linkCount files place node)
      | 'u' => "0"
      | 'g' => "0"
      | 'U' => "root"
      | 'G' => "root"
      | '%' => "%"
      | 'N' => match node with
        | .link target => s!"{shellQuoted path} -> {shellQuoted target}"
        | _ => shellQuoted path
      | _ => "?"
    text ++ describeFile files place path node rest
  | c :: rest => String.singleton c ++ describeFile files place path node rest
  | [] => ""

/-- Write what is known about files. -/
def stat (o : Occasion) : Effect :=
  withFlags o 1 "c:Lft" [("format", 'c'), ("printf", 'c'), ("dereference", 'L')] fun flags =>
    match flags.operands with
    | [] => misuse o 1 "missing operand"
    | paths =>
      let format := (flags.value? 'c').getD "%n"
      change o paths fun files path =>
        match files.follow (flags.has 'L') o.dir path with
        | .error e => .error s!"cannot statx {shellQuoted path}: {errorText e}"
        | .ok found =>
          let node := (files.node? found).getD (.directory Files.plainDirMode)
          .ok (files,
            [.out (.ofRaw (describeFile files found path node format.toList ++ "\n"))])

/-! ### Directories -/

/-- How files are listed. -/
structure Listing where
  all : Bool
  dots : Bool
  reversed : Bool
  marksKinds : Bool
  marksDirs : Bool
  recursive : Bool
  /-- Whether each file has a long line. -/
  isLong : Bool
  hidesOwner : Bool
  hidesGroup : Bool
  /-- Whether owners and groups are shown as numbers. -/
  hasNumbers : Bool
  bySize : Bool

/-- A file that is listed. -/
structure Listed where
  name : String
  place : List String
  node : FileNode

/-- A name with a mark of what it is. -/
def Listing.mark (l : Listing) (entry : Listed) : String :=
  match entry.node with
  | .directory _ => if l.marksKinds || l.marksDirs then entry.name ++ "/" else entry.name
  | .link target =>
    if l.isLong then entry.name ++ " -> " ++ target
    else if l.marksKinds then entry.name ++ "@" else entry.name
  | node =>
    if l.marksKinds && node.isFifo then entry.name ++ "|"
    else if l.marksKinds && node.isFile && node.isExecutable then entry.name ++ "*" else entry.name

/-- The columns of a long line, from the number of names to the size. -/
def Listing.columns (l : Listing) (files : Files) (entry : Listed) : List String :=
  let owner := if l.hasNumbers then "0" else "root"
  [toString (linkCount files entry.place entry.node)] ++ (if l.hidesOwner then [] else [owner]) ++
    (if l.hidesGroup then [] else [owner]) ++ [toString (sizeOf entry.node)]

/-- The lines for some files.  Columns are as wide as their widest entries. -/
def Listing.rows (l : Listing) (files : Files) (entries : List Listed) : List String :=
  if !l.isLong then entries.map l.mark
  else
    let all := entries.map (l.columns files)
    let width (i : Nat) : Nat := (all.map fun row => (row.getD i "").length).foldl max 0
    (entries.zip all).map fun (entry, row) =>
      let cells := (row.zip (List.range row.length)).map fun (text, i) =>
        if text.toList.all Char.isDigit then padLeft (width i) text
        else text ++ "".pushn ' ' (width i - text.length)
      modeText entry.node ++ " " ++ joined cells ++ " Jan  1  1970 " ++ l.mark entry

/-- The room that a file takes, in kilobytes. -/
def blocksOf (node : FileNode) : Nat :=
  match node with
  | .file bytes _ => (bytes.length + 4095) / 4096 * 4
  | .directory _ => 4
  | _ => 0

/-- Files in the order in which they are listed. -/
def Listing.ordered (l : Listing) (entries : List Listed) : List Listed :=
  let sorted := if l.bySize then
      entries.mergeSort fun a b => sizeOf b.node ≤ sizeOf a.node
    else entries
  if l.reversed then sorted.reverse else sorted

/-- The lines for a directory. -/
def Listing.lines (l : Listing) (files : Files) (dir : List String) : List String :=
  let names := (if l.dots then [".", ".."] else []) ++ visibleNames files dir l.all
  let entries := l.ordered (names.filterMap fun name =>
    let place := if name = "." then dir else if name = ".." then dir.dropLast else dir ++ [name]
    (files.node? place).map (⟨name, place, ·⟩))
  let total := (entries.map fun entry => blocksOf entry.node).foldl (· + ·) 0
  (if l.isLong then [s!"total {total}"] else []) ++ l.rows files entries

/-- A directory and, if wanted, those below it, each with its headline. -/
def Listing.tree (l : Listing) (files : Files) (fuel : Nat) (title : String) (dir : List String) :
    List String :=
  match fuel with
  | 0 => []
  | fuel + 1 =>
    let dirs := (visibleNames files dir l.all).filter fun name =>
      files.isDirectory (dir ++ [name])
    let dirs := if l.reversed then dirs.reverse else dirs
    (title ++ ":") :: l.lines files dir ++ dirs.flatMap fun name =>
      "" :: l.tree files fuel (below title name) (dir ++ [name])

/-- List directories and files. -/
def ls (o : Occasion) : Effect :=
  withFlags o 2 "1aAdrRFplthsSCxnogiuckmqQUvN" [("all", 'a'), ("almost-all", 'A'),
      ("directory", 'd'), ("reverse", 'r'), ("recursive", 'R'), ("classify", 'F')] fun flags =>
    let l : Listing :=
      { all := flags.has 'a' || flags.has 'A', dots := flags.has 'a', reversed := flags.has 'r'
        marksKinds := flags.has 'F', marksDirs := flags.has 'p', recursive := flags.has 'R'
        isLong := ['l', 'n', 'o', 'g'].any flags.has, hidesOwner := flags.has 'g'
        hidesGroup := flags.has 'o', hasNumbers := flags.has 'n', bySize := flags.has 'S' }
    let given := if flags.operands.isEmpty then ["."] else flags.operands
    let keepsLinks := flags.has 'd' || l.isLong || l.marksKinds
    let found : List (String × Except IoError (List String)) := given.map fun path =>
      (path, match o.files.resolve o.dir path with
        | .ok place =>
          if keepsLinks then o.files.resolveEntry o.dir path else .ok place
        | .error e =>
          match o.files.resolveEntry o.dir path with
          | .ok place => .ok place
          | .error _ => .error e)
    let notes := found.filterMap fun
      | (path, .error e) => some (grumble o s!"cannot access {shellQuoted path}: {errorText e}")
      | (_, .ok _) => none
    let there := found.filterMap fun
      | (path, .ok place) => (o.files.node? place).map (⟨path, place, ·⟩)
      | (_, .error _) => none
    let there : List Listed := l.ordered (there.mergeSort fun a b => textLe a.name b.name)
    let isDir (entry : Listed) : Bool := !flags.has 'd' && entry.node.isDirectory
    let plain := l.rows o.files (there.filter (!isDir ·))
    let dirs := there.filter isDir
    let titled := 1 < given.length || l.recursive
    let block (entry : Listed) : List String :=
      if l.recursive then l.tree o.files 64 entry.name entry.place
      else (if titled then [entry.name ++ ":"] else []) ++ l.lines o.files entry.place
    let blocks := (if plain.isEmpty then [] else [plain]) ++ dirs.map block
    { finish o (if notes.isEmpty then 0 else 2)
        (notes ++ [.out (.ofRaw (String.join ([""].intercalate blocks |>.map (· ++ "\n"))))]) with
      rest := untouched o }

end Outflow.Utility
