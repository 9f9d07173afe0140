import Outflow.IoError
import Outflow.Text.Bytes

/-!
# The files of a machine

A tree of files, as far as children and configuration can see it.  Paths are walked one name at
a time, so a missing directory in the middle of a path is noticed even when a later name leads
out of it again.  A symbolic link on the way is followed; whether one at the end is followed too
depends on who asks.
-/

namespace Outflow

/-- What a path can lead to. -/
inductive FileNode where
  /-- A directory with its permission bits. -/
  | directory (mode : Nat)
  /-- A file with its permission bits. -/
  | file (bytes : Bytes) (mode : Nat)
  /-- A program that the machine comes with. -/
  | program (name : String)
  | link (target : String)
  /-- A pipe that has a name. -/
  | fifo (mode : Nat)
  /-- Reads as empty and takes any output. -/
  | nullDevice
  /-- Reads as zeros without end. -/
  | zeroDevice
  /-- Reads as zeros without end and has no room for any output. -/
  | fullDevice
  /-- What a descriptor of whoever opens it leads to. -/
  | descriptor (fd : Nat)
  deriving DecidableEq, Repr

namespace FileNode

/-- The permission bits that a node shows. -/
def mode : FileNode → Nat
  | directory mode => mode
  | file _ mode => mode
  | program _ => 0o755
  | link _ => 0o777
  | fifo mode => mode
  | _ => 0o666

/-- What a program holds, as far as it matters: it begins like one, and it is no text. -/
def programBytes : Bytes :=
  [0x7F, 0x45, 0x4C, 0x46, 2, 1, 1, 0, 0, 0, 0, 0, 0, 0, 0, 0, 3, 0, 0x3E, 0, 1, 0, 0, 0,
   0xF0, 0xCA, 0, 0, 0, 0, 0, 0]

/-- What a node with contents of its own holds. -/
def contents? : FileNode → Option Bytes
  | file bytes _ => some bytes
  | program _ => some programBytes
  | _ => none

/-- Whether any bit lets a node be executed. -/
def isExecutable (node : FileNode) : Bool := node.mode &&& 0o111 != 0

/-- Whether a node is a directory. -/
def isDirectory : FileNode → Bool
  | directory _ => true
  | _ => false

/-- Whether a node is a file with contents of its own. -/
def isFile : FileNode → Bool
  | file .. => true
  | program _ => true
  | _ => false

/-- Whether a node is a pipe with a name. -/
def isFifo : FileNode → Bool
  | fifo _ => true
  | _ => false

/-- Whether a node is a device. -/
def isDevice : FileNode → Bool
  | nullDevice => true
  | zeroDevice => true
  | fullDevice => true
  | _ => false

end FileNode

/-- Files by their absolute paths, as lists of names. -/
structure Files where
  nodes : List (List String × FileNode)
  deriving Repr

namespace Files

/-- The longest name in a path, in octets. -/
def maxName : Nat := 255

/-- The longest path, in octets. -/
def maxPath : Nat := 4095

/-- How many links are followed on one path. -/
def maxLinks : Nat := 40

/-- The permission bits of a file that nobody thought about. -/
def plainMode : Nat := 0o644

/-- The permission bits of a directory that nobody thought about. -/
def plainDirMode : Nat := 0o755

/-- What stands at an absolute path. -/
def node? (fs : Files) (path : List String) : Option FileNode :=
  if path = [] then some (.directory plainDirMode)
  else (fs.nodes.find? (·.1 = path)).map (·.2)

/-- Whether a directory stands at an absolute path. -/
def isDirectory (fs : Files) (path : List String) : Bool :=
  (fs.node? path).any FileNode.isDirectory

/-- The names of a path. -/
def names (path : String) : List String := (path.toList.splitOn '/').map String.ofList

/-- Whether a path starts at the root. -/
def isAbsolute (path : String) : Bool := path.toList.head? == some '/'

/-- Walk some names from a directory on; every one of them must exist.  Up to `links` links are
followed, one at the very end only with `last`. -/
def walk (fs : Files) (links : Nat) (last : Bool) (dir : List String) (path : List String) :
    Except IoError (List String) :=
  match path with
  | [] => .ok dir
  | name :: rest =>
    if !(fs.isDirectory dir) then .error (.os 20)
    else if name = "" ∨ name = "." then walk fs links last dir rest
    else if name = ".." then walk fs links last dir.dropLast rest
    else if maxName < name.utf8ByteSize then .error (.os 36)
    else
      match fs.node? (dir ++ [name]) with
      | none => .error .noSuchFile
      | some (.link target) =>
        if rest.isEmpty && !last then .ok (dir ++ [name])
        else
          match links with
          | 0 => .error (.os 40)
          | links + 1 =>
            let start := if isAbsolute target then [] else dir
            walk fs links last start (names target ++ rest)
      | some _ => walk fs links last (dir ++ [name]) rest
  termination_by (links, path.length)

/-- Where a path leads from a directory. -/
def follow (fs : Files) (last : Bool) (dir : List String) (path : String) :
    Except IoError (List String) :=
  if path = "" then .error .noSuchFile
  else if maxPath < path.utf8ByteSize then .error (.os 36)
  else walk fs maxLinks last (if isAbsolute path then [] else dir) (names path)

/-- Where a path leads, with all links followed. -/
def resolve (fs : Files) (dir : List String) (path : String) : Except IoError (List String) :=
  fs.follow true dir path

/-- Where a path leads, with all links but one at its end followed. -/
def resolveEntry (fs : Files) (dir : List String) (path : String) : Except IoError (List String) :=
  fs.follow false dir path

/-- What a path leads to. -/
def look (fs : Files) (dir : List String) (path : String) : Except IoError FileNode := do
  match fs.node? (← fs.resolve dir path) with
  | some node => .ok node
  | none => .error .noSuchFile

/-- A path that holds a zero octet names nothing. -/
def nulInPath : IoError :=
  .noted .invalidInput "file name contained an unexpected NUL byte"

/-- Read a whole file that is expected to end. -/
def read (fs : Files) (dir : List String) (path : String) : Except IoError Bytes := do
  if path.toList.contains '\x00' then .error nulInPath
  else
    match ← fs.look dir path with
    | .directory _ => .error (.os 21)
    | .zeroDevice => .error (.os 12)
    | .fullDevice => .error (.os 12)
    | node => .ok (node.contents?.getD [])

/-- Where a path leads whose last name need not exist yet.  A link at its end that leads nowhere
gives the place that it names. -/
def resolveNew (fs : Files) (dir : List String) (path : String) :
    Except IoError (List String) :=
  match fs.resolve dir path with
  | .ok found => .ok found
  | .error (.os 40) => .error (.os 40)
  | .error e => do
    let parts := names path
    match parts.getLast? with
    | none => .error e
    | some name =>
      if path = "" ∨ name = "" ∨ name = "." ∨ name = ".." ∨ maxName < name.utf8ByteSize ∨
          maxPath < path.utf8ByteSize then
        .error e
      else
        let start := if isAbsolute path then [] else dir
        let parent ← fs.walk maxLinks true start parts.dropLast
        if !(fs.isDirectory parent) then .error (.os 20)
        else
          match fs.node? (parent ++ [name]) with
          | some (.link target) =>
            let base := if isAbsolute target then [] else parent
            let steps := names target
            let up ← fs.walk maxLinks true base steps.dropLast
            .ok (up ++ steps.getLast?.toList)
          | some _ => .error e
          | none => .ok (parent ++ [name])

/-- Put a node at an absolute path, in the place of one that stands there. -/
def put (fs : Files) (path : List String) (node : FileNode) : Files :=
  if (fs.node? path).isSome then
    ⟨fs.nodes.map fun entry => if entry.1 = path then (path, node) else entry⟩
  else ⟨fs.nodes ++ [(path, node)]⟩

/-- Take away what stands at an absolute path. -/
def delete (fs : Files) (path : List String) : Files := ⟨fs.nodes.filter (·.1 ≠ path)⟩

/-- Take away what stands at an absolute path, and all that is below it. -/
def deleteTree (fs : Files) (path : List String) : Files :=
  ⟨fs.nodes.filter fun entry => !path.isPrefixOf entry.1⟩

/-- The names in a directory. -/
def children (fs : Files) (dir : List String) : List String :=
  fs.nodes.filterMap fun (path, _) =>
    if path.length = dir.length + 1 ∧ path.dropLast = dir then path.getLast? else none

/-- The nodes at and below an absolute path, with their paths from there on. -/
def subtree (fs : Files) (path : List String) : List (List String × FileNode) :=
  fs.nodes.filterMap fun (p, node) =>
    if path.isPrefixOf p then some (p.drop path.length, node) else none

/-- Put the same nodes at and below another absolute path. -/
def graft (fs : Files) (path : List String) (nodes : List (List String × FileNode)) : Files :=
  nodes.foldl (fun fs (p, node) => fs.put (path ++ p) node) fs

end Files

end Outflow
