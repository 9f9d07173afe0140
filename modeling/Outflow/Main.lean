import Outflow.Host.Outside

/-!
# The command line program

Reads the arguments, the environment and the configuration file, lets `Application.answer` decide
on everything, and writes what it decided.  Commands run on a machine of their own, beside the
configuration file; nothing that they do is seen outside.
-/

namespace Outflow

/-- The variables that the program looks at. -/
def ownVars : List String :=
  [Application.filterVar, RunnerConfig.chunkSizeVar, RunnerConfig.gracePeriodVar]

/-- The configuration file that a command line names. -/
def configPath? (args : List String) : Option String :=
  match CommandLine.ofArgs args with
  | .error _ => none
  | .ok ⟨_, .config path⟩ => path
  | .ok ⟨_, .run o⟩ => o.config

/-- The machine that commands run on. -/
def machine (args : List String) : IO Machine := do
  let m ← ownVars.foldlM (fun m name => return m.setVar name (← IO.getEnv name)) Machine.standard
  match configPath? args with
  | none => return m
  | some path =>
    try
      let bytes ← IO.FS.readBinFile path
      return m.addFile path bytes.data.toList
    catch _ => return m

end Outflow

/-- Answer the command line. -/
def main (args : List String) : IO UInt32 := do
  match Outflow.Application.answer ((← Outflow.machine args).outside "") args with
  | none =>
    IO.eprintln "Error: the command never ends"
    return 1
  | some answer =>
    let stdout ← IO.getStdout
    stdout.write answer.stdout.toByteArray
    stdout.flush
    let stderr ← IO.getStderr
    stderr.write answer.stderr.toByteArray
    stderr.flush
    return UInt32.ofNat answer.status
