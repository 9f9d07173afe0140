import Outflow.Capture
import Outflow.Duration.Units
import Outflow.IoError
import Outflow.Text.Quoted

/-!
# Runner configuration

The settings of a runner, their defaults, what makes them valid, and how two environment
variables override them.  Overrides apply one after the other, the chunk size first, and what
has been set stays set when a later one fails.
-/

namespace Outflow

/-- The settings of a runner. -/
structure RunnerConfig where
  /-- The most octets that are read from a stream in one go. -/
  chunkSize : UInt64
  /-- How long a child that was asked to end gets before it is killed. -/
  gracePeriod : Duration
  /-- What is kept of each stream; all of it if unset. -/
  captureLimit : Option CaptureLimit
  deriving DecidableEq, Repr

/-- Why there is no configuration. -/
inductive ConfigError where
  | read (path : String) (source : IoError)
  /-- The file is no TOML document, or not one of a configuration. -/
  | parse
  | env (name value reason : String)
  | invalid (reason : String)
  deriving DecidableEq, Repr

/-- The wording of a configuration error. -/
def ConfigError.message : ConfigError → String
  | read path source => s!"Failed to read config file {path}: {source.message}"
  | parse => "Failed to parse config: TOML parse error"
  | env name value reason => s!"Invalid value {Text.quoted value} for {name}: {reason}"
  | invalid reason => s!"Invalid config: {reason}"

/-- What is known of the error behind a configuration error. -/
def ConfigError.source? : ConfigError → Option String
  | read _ source => some source.message
  | parse => some "TOML parse error"
  | _ => none

namespace RunnerConfig

/-- The settings that hold unless something else is said. -/
def default : RunnerConfig := ⟨8192, .ofSecs 1, none⟩

instance : Inhabited RunnerConfig := ⟨default⟩

/-- The variable that overrides the chunk size. -/
def chunkSizeVar : String := "PROCDRAIN_CHUNK_SIZE"

/-- The variable that overrides the grace period. -/
def gracePeriodVar : String := "PROCDRAIN_GRACE_PERIOD"

/-- What is wrong with some settings, if anything is. -/
def fault? (c : RunnerConfig) : Option String :=
  if c.chunkSize = 0 then some "chunk_size must be greater than 0"
  else
    match c.captureLimit with
    | some limit =>
      if limit.maxBytes = 0 then some "capture_limit.max_bytes must be greater than 0" else none
    | none => none

/-- Check some settings. -/
def validate (c : RunnerConfig) : Except ConfigError Unit :=
  match c.fault? with
  | some reason => .error (.invalid reason)
  | none => .ok ()

/-- The chunk size that a variable sets. -/
def readChunkSize (value : String) : Except ConfigError UInt64 :=
  match Text.readNumeral (UInt64.size - 1) (Text.trim value) with
  | .ok n => .ok (UInt64.ofNat n)
  | .error e => .error (.env chunkSizeVar value e.message)

/-- The grace period that a variable sets. -/
def readGracePeriod (value : String) : Except ConfigError Duration :=
  match Duration.ofUnits? (Text.trim value) with
  | .ok d => .ok d
  | .error e => .error (.env gracePeriodVar value e.message)

/-- Where the values of variables come from. -/
abbrev Lookup := String → Option String

/-- Override the chunk size, if its variable is set. -/
def mergeChunkSize (c : RunnerConfig) (vars : Lookup) : Except ConfigError RunnerConfig :=
  match vars chunkSizeVar with
  | none => .ok c
  | some value => (readChunkSize value).map fun n => { c with chunkSize := n }

/-- Override the grace period, if its variable is set. -/
def mergeGracePeriod (c : RunnerConfig) (vars : Lookup) : Except ConfigError RunnerConfig :=
  match vars gracePeriodVar with
  | none => .ok c
  | some value => (readGracePeriod value).map fun d => { c with gracePeriod := d }

/-- Apply the variables: the settings as they are left, and whether all went well. -/
def merge (c : RunnerConfig) (vars : Lookup) : RunnerConfig × Except ConfigError Unit :=
  match c.mergeChunkSize vars with
  | .error e => (c, .error e)
  | .ok sized =>
    match sized.mergeGracePeriod vars with
    | .error e => (sized, .error e)
    | .ok merged => (merged, merged.validate)

/-- The settings with the variables applied, if all goes well. -/
def merged (c : RunnerConfig) (vars : Lookup) : Except ConfigError RunnerConfig :=
  let (settings, result) := c.merge vars
  result.map fun () => settings

/-- The defaults with the variables applied. -/
def ofEnv (vars : Lookup) : Except ConfigError RunnerConfig := default.merged vars

end RunnerConfig

end Outflow
