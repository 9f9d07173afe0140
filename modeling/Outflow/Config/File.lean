import Outflow.Config
import Outflow.Toml.Reader

/-!
# Configuration files

A configuration as a TOML document.  A document may leave settings out, but it may not name any
that do not exist.  The limit is a table, or an array of its fields in order; a strategy is a
name, or a table whose only key is the name.

`RunnerConfig.render` writes the document that reads back as the same settings.
-/

namespace Outflow

namespace RunnerConfig

open Toml (Value Entries)

/-- A number that fits a machine word. -/
def word? : Value → Option UInt64
  | .integer (some n) => if 0 ≤ n ∧ n < UInt64.size then some (UInt64.ofNat n.toNat) else none
  | _ => none

/-- A duration written with units. -/
def duration? : Value → Option Duration
  | .string s => (Duration.ofUnits? s).toOption
  | _ => none

/-- Whether a value has no parts. -/
def isHollow : Value → Bool
  | .array [] => true
  | .table _ [] => true
  | _ => false

/-- A strategy. -/
def strategy? : Value → Option OverflowStrategy
  | .string s => OverflowStrategy.ofName? s
  | .table _ [(name, v)] => if isHollow v then OverflowStrategy.ofName? name else none
  | _ => none

mutual

/-- Whether a value that nobody asked for can be passed over: its numbers must be numbers, and in
range. -/
def ignorable : Value → Bool
  | .integer n => n.any fun n => -(2 ^ 127) ≤ n && n < 2 ^ 128
  | .float x => x.inRange
  | .array vs => ignorableAll vs
  | .tables ts => ignorableTables ts
  | .table _ es => ignorableEntries es
  | _ => true

/-- Whether some values can be passed over. -/
def ignorableAll : List Value → Bool
  | [] => true
  | v :: vs => ignorable v && ignorableAll vs

/-- Whether the entries of a table can be passed over. -/
def ignorableEntries : List (String × Value) → Bool
  | [] => true
  | (_, v) :: es => ignorable v && ignorableEntries es

/-- Whether some tables can be passed over. -/
def ignorableTables : List (List (String × Value)) → Bool
  | [] => true
  | t :: ts => ignorableEntries t && ignorableTables ts

end

/-- The fields of a limit. -/
def limitKeys : List String := ["max_bytes", "strategy"]

/-- A limit with the strategy that is given, or the one that holds otherwise. -/
def limitOf? (maxBytes : Value) (strategy : Option Value) : Option CaptureLimit := do
  let maxBytes ← word? maxBytes
  let strategy ← match strategy with
    | none => some .dropOldest
    | some v => strategy? v
  some ⟨maxBytes, strategy⟩

/-- A limit.  Keys that no limit has are passed over. -/
def limit? : Value → Option CaptureLimit
  | .table _ es =>
    match Entries.get? es "max_bytes" with
    | none => none
    | some maxBytes =>
      if es.all fun (k, v) => limitKeys.contains k || ignorable v then
        limitOf? maxBytes (Entries.get? es "strategy")
      else none
  | .array (maxBytes :: rest) => limitOf? maxBytes rest.head?
  | _ => none

/-- The settings of a configuration. -/
def settingKeys : List String := ["chunk_size", "grace_period", "capture_limit"]

/-- The value of a key, or the one that holds otherwise. -/
def setting? {α : Type} (es : Entries) (key : String) (read : Value → Option α) (other : α) :
    Option α :=
  match es.get? key with
  | none => some other
  | some v => read v

/-- The settings of a document. -/
def ofEntries? (es : Entries) : Option RunnerConfig :=
  if es.keys.all settingKeys.contains then do
    let chunkSize ← setting? es "chunk_size" word? default.chunkSize
    let gracePeriod ← setting? es "grace_period" duration? default.gracePeriod
    let captureLimit ←
      setting? es "capture_limit" (fun v => (limit? v).map some) default.captureLimit
    some ⟨chunkSize, gracePeriod, captureLimit⟩
  else none

/-- Read the settings in a document, and check them. -/
def ofToml (text : String) : Except ConfigError RunnerConfig :=
  match (Toml.read? text).bind ofEntries? with
  | none => .error .parse
  | some c => c.validate.map fun () => c

/-- Read the settings in a file of these octets, or give the error that reading it met. -/
def ofFile (path : String) (file : Except IoError Bytes) : Except ConfigError RunnerConfig :=
  match file with
  | .error e => .error (.read path e)
  | .ok bytes =>
    match bytes.utf8? with
    | none => .error (.read path .notText)
    | some text => ofToml text

/-- Read a file and apply the variables on top of it. -/
def load (path : String) (file : Except IoError Bytes) (vars : Lookup) :
    Except ConfigError RunnerConfig :=
  (ofFile path file).bind (·.merged vars)

/-- The table of a limit. -/
def renderLimit (l : CaptureLimit) : String :=
  s!"\n[capture_limit]\nmax_bytes = {l.maxBytes}\nstrategy = \"{l.strategy.name}\"\n"

/-- The document of a configuration. -/
def render (c : RunnerConfig) : String :=
  s!"chunk_size = {c.chunkSize}\ngrace_period = \"{c.gracePeriod.render}\"\n" ++
  match c.captureLimit with
  | none => ""
  | some l => renderLimit l

end RunnerConfig

end Outflow
