import Outflow.Command
import Outflow.Host.Utility

/-!
# The machine that children run on

A `Machine` is what a child finds when it starts: files, a working directory and an
environment.  `Machine.standard` has the usual system directories and small programs, and an
empty directory of its own to work in.
-/

namespace Outflow

/-- What a child finds when it starts. -/
structure Machine where
  files : Files
  /-- The working directory. -/
  dir : List String
  env : Overlay

namespace Machine

/-- The system directories. -/
def systemDirs : List (List String) :=
  [["usr"], ["usr", "bin"], ["usr", "local"], ["usr", "local", "bin"], ["usr", "local", "sbin"],
   ["usr", "sbin"], ["usr", "lib"], ["usr", "lib64"], ["usr", "share"], ["etc"], ["dev"],
   ["dev", "fd"], ["tmp"], ["var"], ["var", "tmp"], ["home"], ["root"], ["proc"], ["sys"],
   ["opt"], ["run"], ["mnt"], ["srv"], ["boot"], ["media"]]

/-- The permission bits of a system directory. -/
def systemMode (path : List String) : Nat :=
  if path.getLast? = some "tmp" then 0o1777
  else if path = ["root"] then 0o700
  else Files.plainDirMode

/-- The links among the system directories, with where they lead. -/
def systemLinks : List (List String × String) :=
  [(["bin"], "usr/bin"), (["sbin"], "usr/sbin"), (["lib"], "usr/lib"), (["lib64"], "usr/lib64"),
   (["var", "run"], "/run")]

/-- The devices that every machine has. -/
def devices : List (List String × FileNode) :=
  [(["dev", "null"], .nullDevice), (["dev", "zero"], .zeroDevice), (["dev", "full"], .fullDevice),
   (["dev", "urandom"], .zeroDevice), (["dev", "random"], .zeroDevice),
   (["dev", "stdin"], .descriptor 0), (["dev", "stdout"], .descriptor 1),
   (["dev", "stderr"], .descriptor 2), (["dev", "fd", "0"], .descriptor 0),
   (["dev", "fd", "1"], .descriptor 1), (["dev", "fd", "2"], .descriptor 2)]

/-- The directory that a machine works in. -/
def workDir : List String := ["tmp", "work"]

/-- The files that every machine has. -/
def systemFiles : Files where
  nodes :=
    systemDirs.map (fun path => (path, .directory (systemMode path))) ++
    systemLinks.map (fun (path, target) => (path, .link target)) ++
    Utility.names.map (fun name => (["usr", "bin", name], .program name)) ++
    [(["etc", "passwd"], .file (Bytes.ofText "root:x:0:0:root:/root:/bin/bash\n") 0o644),
     (["etc", "hosts"], .file (Bytes.ofText "127.0.0.1\tlocalhost\n") 0o644)] ++
    devices ++ [(workDir, .directory Files.plainDirMode)]

/-- The directories that hold the programs of a machine, in the order of preference. -/
def searchPath : String := "/usr/local/sbin:/usr/local/bin:/usr/sbin:/usr/bin:/sbin:/bin"

/-- The environment that every machine has. -/
def systemEnv : Overlay := [("PATH", searchPath), ("HOME", "/root"), ("PWD", "/tmp/work")]

/-- A machine with nothing in its working directory. -/
def standard : Machine := ⟨systemFiles, workDir, systemEnv⟩

/-- Put a file into the working directory, with the directories on the way to it. -/
def addFile (m : Machine) (path : String) (bytes : Bytes) : Machine :=
  let names := (Files.names path).filter fun name => name ≠ "" ∧ name ≠ "."
  let dirs := (List.range names.length).filterMap fun n =>
    if n = 0 then none else some (m.dir ++ names.take n)
  let files := dirs.foldl (fun fs d => fs.put d (.directory Files.plainDirMode)) m.files
  { m with files := files.put (m.dir ++ names) (.file bytes Files.plainMode) }

/-- Set a variable, or remove it. -/
def setVar (m : Machine) (name : String) (value : Option String) : Machine :=
  match value with
  | some value => { m with env := m.env.insert name value }
  | none => { m with env := m.env.filter (·.1 ≠ name) }

end Machine

end Outflow
