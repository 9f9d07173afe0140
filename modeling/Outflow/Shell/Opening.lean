import Outflow.Shell.Builtin

/-!
# Redirections

How the channels of a command come about: files are opened, descriptors are made the same as
others, and what cannot be done is complained about where the channels made so far lead.
-/

namespace Outflow.Shell

/-- A redirection whose words have been expanded. -/
inductive Opening where
  | input (fd : Nat) (path : String) (both : Bool)
  | output (fd : Nat) (path : String) (append clobber : Bool)
  /-- Make a descriptor the same as another, or close it. -/
  | duplicate (fd : Nat) (source : Option Nat)
  | here (fd : Nat) (text : String)
  /-- The text to be read could not be made. -/
  | broken

/-- The descriptor that a redirection is for. -/
def Opening.descriptor? : Opening → Option Nat
  | input fd _ _ => some fd
  | output fd _ _ _ => some fd
  | duplicate fd _ => some fd
  | here fd _ => some fd
  | broken => none

/-- The channels of a command with one of them changed. -/
def Channels.replace (channels : Channels) (fd : Nat) (channel : Option Channel) : Channels :=
  let others := channels.filter (·.1 ≠ fd)
  match channel with
  | some p => (fd, p) :: others
  | none => others

/-- Where a descriptor leads. -/
def Channels.at? (channels : Channels) (fd : Nat) : Option Channel :=
  (channels.find? (·.1 = fd)).map (·.2)

/-- Channels of which some descriptors are put back to what they were. -/
def Channels.restore (before : Channels) (fds : List Nat) (channels : Channels) : Channels :=
  fds.foldl (fun channels fd => channels.replace fd (before.at? fd)) channels

/-- How a command is redirected. -/
structure Redirected where
  channels : Channels
  /-- The descriptors that lead elsewhere. -/
  changed : List Nat

/-- Run redirected.  Afterwards the descriptors that were changed lead where they led before, and
until then the channels that they had are put by. -/
def Redirected.around {α : Type} (r : Redirected) (body : Act α) : Act α := fun s =>
  body.within
    (fun s => { s with
      channels := r.channels, kept := r.changed.filterMap s.channels.at? ++ s.kept })
    (fun t => { t with channels := s.channels.restore r.changed t.channels, kept := s.kept }) s

/-- Run with other channels. -/
def withChannels {α : Type} (channels : Channels) (body : Act α) : Act α := fun s =>
  body.within (fun s => { s with channels }) (fun t => { t with channels := s.channels }) s

/-- Replace the channels of the shell for good. -/
def replaceChannels (channels : Channels) : Act Unit := modify fun s => { s with channels }

/-- Why a file cannot be opened or made, in the words of a shell. -/
def openFailure (action absence path : String) (e : IoError) : String :=
  let reason := if e = .os 2 || e = .os 20 then absence else Utility.errorText e
  s!"cannot {action} {path}: {reason}"

/-- Why a file cannot be read. -/
def readFailure (path : String) (e : IoError) : String := openFailure "open" "No such file" path e

/-- Why a file cannot be made. -/
def writeFailure (path : String) (e : IoError) : String :=
  openFailure "create" "Directory nonexistent" path e

/-- Open a pipe that has a name.  A reader waits for a writer, and a writer for a reader.  What was
left in a pipe that nobody had is lost. -/
def openNamed (place : List String) (access : Access) : Act Channel := do
  let n ← match (← get).world.named.find? (·.1 = place) with
    | some (_, n) => pure n
    | none => do
      let n ← newPipe .empty false
      modifyWorld fun w => { w with named := (place, n) :: w.named }
      pure n
  let s ← get
  let old := s.world.pipe n
  let old := if s.hasReader n || s.hasWriter n then old else old.replace .empty
  modifyWorld fun w => w.setPipe n { old with
    readings := old.readings + if access.mayRead then 1 else 0
    writings := old.writings + if access.mayWrite then 1 else 0 }
  let channel := Channel.pipe n access
  match access with
  | .reads => if !s.hasWriter n then keeping [channel] (waitFor [.writing n old.writings])
  | .writes => if !s.hasReader n then keeping [channel] (waitFor [.reading n old.readings])
  | .both => pure ()
  return channel

/-- Open a file to read from it. -/
def openInput (channels : Channels) (path : String) : Act (Except String Channel) := do
  let s ← get
  match s.world.files.look s.dir path with
  | .error e => return .error (readFailure path e)
  | .ok (.directory _) => return .ok .directory
  | .ok .fullDevice => return .ok (.pipe (← newPipe .zeros true) .reads)
  | .ok .zeroDevice => return .ok (.pipe (← newPipe .zeros true) .reads)
  | .ok (.descriptor fd) =>
    match channels.at? fd with
    | some channel => return .ok channel
    | none => return .error (readFailure path .noSuchFile)
  | .ok node =>
    match s.world.files.resolve s.dir path with
    | .error e => return .error (readFailure path e)
    | .ok place =>
      if node.isFifo then return .ok (← openNamed place .reads)
      else if node.isFile then return .ok (.file (← openFile place false) .reads)
      else return .ok .null

/-- How a file is opened to write into it. -/
structure Writing where
  /-- What it held is lost. -/
  empties : Bool
  /-- All is written at its end. -/
  appends : Bool
  /-- It must not be there before. -/
  spares : Bool
  access : Access

/-- Open a file to write into it. -/
def openOutput (channels : Channels) (path : String) (w : Writing) :
    Act (Except String Channel) := do
  let s ← get
  match s.world.files.resolveNew s.dir path with
  | .error e => return .error (writeFailure path e)
  | .ok found =>
    match s.world.files.node? found with
    | some (.directory _) => return .error (writeFailure path (.os 21))
    | some .nullDevice => return .ok .null
    | some .zeroDevice => return .ok .null
    | some .fullDevice => return .ok .full
    | some (.descriptor fd) =>
      match channels.at? fd with
      | some channel => return .ok channel
      | none => return .error (writeFailure path (.os 6))
    | some (.file _ mode) =>
      if w.spares then return .error (writeFailure path (.os 17))
      else
        if w.empties then
          modifyWorld fun w => { w with files := w.files.put found (.file [] mode) }
        return .ok (.file (← openFile found w.appends) w.access)
    | some (.fifo _) => return .ok (← openNamed found w.access)
    | some _ => return .error (writeFailure path (.os 26))
    | none =>
      if path.toList.getLast? = some '/' then return .error (writeFailure path (.os 21))
      else
        let mode := 0o666 - (0o666 &&& s.umask)
        modifyWorld fun w => { w with files := w.files.put found (.file [] mode) }
        return .ok (.file (← openFile found w.appends) w.access)

/-- The channels after a redirection, or why it is not possible. -/
def Opening.apply (channels : Channels) : Opening → Act (Except String Channels)
  | .input fd path both => do
    let opened ← if both then openOutput channels path ⟨false, false, false, .both⟩
      else openInput channels path
    return opened.map fun p => Channels.replace channels fd (some p)
  | .output fd path append clobber => do
    let spares := (← get).has 'C' && !append && !clobber
    let opened ← openOutput channels path ⟨!append, append, spares, .writes⟩
    return opened.map fun p => Channels.replace channels fd (some p)
  | .duplicate fd none => return .ok (Channels.replace channels fd none)
  | .duplicate fd (some n) =>
    if n = fd then return .ok channels
    else
      match channels.at? n with
      | some p => return .ok (Channels.replace channels fd (some p))
      | none => return .error s!"{n}: Bad file descriptor"
  | .here fd text => do
    return .ok (Channels.replace channels fd (some (.pipe (← newPipe (.ofRaw text) false) .reads)))
  | .broken => return .ok channels

/-- The channels after some redirections.  One that is not possible is a fault. -/
def openEach (channels : Channels) : List Opening → Act Channels
  | [] => return channels
  | .broken :: _ => throw .fault
  | r :: rest => do
    match ← r.apply channels with
    | .ok channels => openEach channels rest
    | .error e => withChannels channels (fail e)

/-- How a command with some redirections is redirected. -/
def openAll (openings : List Opening) : Act Redirected := do
  return ⟨← openEach (← get).channels openings, openings.filterMap Opening.descriptor?⟩

/-- Do something that may come to a fault, which only leaves its status behind. -/
def attempt {α : Type} (body : Act α) : Act (Option α) := fun s =>
  (body s).andThen (fun a => .done (some a)) fun j =>
    match j with
    | .fault => .done none
    | j => .jumps j

end Outflow.Shell
