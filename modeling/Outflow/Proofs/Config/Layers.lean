import Outflow.Config.File

/-!
# The layers of a configuration

Settings come in layers: the defaults or a file, and two variables on top.  What the layers give
is said here without the order in which the program goes through them: settings that hold
(`Settled`), or the error of the first stage that fails (`FirstFault`).  Reading a document and
reading the values of variables are taken as they are.

## Key results

- `fault?_eq_none_iff`: what passes the check
- `Settled.settings_eq` / `FirstFault.settings_eq`: each description fits what the layers give
- `settled_or_firstFault`: one of them always applies
- `settings_layered`: so the layers give what is described, and nothing else
-/

namespace Outflow

namespace Text

theorem le_of_readDigits {limit n m : Nat} {cs : List Char} (hn : n ≤ limit)
    (h : readDigits limit n cs = .ok m) : m ≤ limit := by
  induction cs generalizing n with
  | nil =>
    simp only [readDigits, Except.ok.injEq] at h
    exact h ▸ hn
  | cons c cs ih =>
    simp only [readDigits] at h
    split at h
    · contradiction
    · split at h
      · contradiction
      · rename_i hle
        exact ih (Nat.le_of_not_lt hle) h

/-- A numeral that can be read is within its limit. -/
theorem le_of_readNumeral {limit m : Nat} {s : String} (h : readNumeral limit s = .ok m) :
    m ≤ limit := by
  unfold readNumeral at h
  split at h
  · contradiction
  · contradiction
  · exact le_of_readDigits (Nat.zero_le _) h
  · exact le_of_readDigits (Nat.zero_le _) h

end Text

namespace RunnerConfig

/-! ### Settings that can be used -/

/-- Settings that can be used: a read can get something, and so can a capture. -/
structure Valid (c : RunnerConfig) : Prop where
  chunkSize_pos : 1 ≤ c.chunkSize
  maxBytes_pos : ∀ limit, c.captureLimit = some limit → 1 ≤ limit.maxBytes

/-- A word is positive unless it is zero. -/
private theorem one_le_iff_ne_zero (n : UInt64) : 1 ≤ n ↔ n ≠ 0 := by
  rw [UInt64.le_iff_toNat_le, ne_eq, ← UInt64.toNat_inj]
  simp only [UInt64.toNat_one, UInt64.toNat_zero]
  omega

/-- Nothing is wrong with settings just if they can be used. -/
theorem fault?_eq_none_iff (c : RunnerConfig) : c.fault? = none ↔ Valid c := by
  unfold fault?
  by_cases hsize : c.chunkSize = 0
  · rw [if_pos hsize]
    exact iff_of_false (by simp) fun h => (one_le_iff_ne_zero _).1 h.chunkSize_pos hsize
  · rw [if_neg hsize]
    have hpos : 1 ≤ c.chunkSize := (one_le_iff_ne_zero _).2 hsize
    cases hlimit : c.captureLimit with
    | none =>
      refine iff_of_true rfl ⟨hpos, fun limit hl => ?_⟩
      rw [hlimit] at hl
      contradiction
    | some limit =>
      by_cases hmax : limit.maxBytes = 0
      · refine iff_of_false (by simp [hmax]) fun h => ?_
        exact (one_le_iff_ne_zero _).1 (h.maxBytes_pos limit hlimit) hmax
      · refine iff_of_true (if_neg hmax) ⟨hpos, fun other hother => ?_⟩
        rw [hlimit, Option.some.injEq] at hother
        exact hother ▸ (one_le_iff_ne_zero _).2 hmax

theorem validate_of_valid {c : RunnerConfig} (h : Valid c) : c.validate = .ok () := by
  rw [validate, (fault?_eq_none_iff c).2 h]

theorem validate_of_fault {c : RunnerConfig} {reason : String} (h : c.fault? = some reason) :
    c.validate = .error (.invalid reason) := by
  rw [validate, h]

/-! ### The layers -/

/-- Where settings come from besides their defaults. -/
structure Sources where
  /-- The path of a file, and what reading it gives. -/
  file : Option (String × Except IoError Bytes)
  vars : Lookup

/-- The settings that some sources give. -/
def Sources.settings (s : Sources) : Except ConfigError RunnerConfig :=
  match s.file with
  | some (path, file) => load path file s.vars
  | none => ofEnv s.vars

/-- The text of a file that can be read. -/
def textOf (file : Except IoError Bytes) : Except IoError String :=
  match file with
  | .error e => .error e
  | .ok bytes =>
    match bytes.utf8? with
    | none => .error .notText
    | some text => .ok text

/-- The settings that a document holds, whether or not they can be used. -/
def document? (text : String) : Option RunnerConfig := (Toml.read? text).bind ofEntries?

/-- The number that the value of a variable spells. -/
def sizeOf (value : String) : Except Text.NumeralError Nat :=
  Text.readNumeral (UInt64.size - 1) (Text.trim value)

/-- The duration that the value of a variable spells. -/
def graceOf (value : String) : Except Duration.UnitsError Duration :=
  Duration.ofUnits? (Text.trim value)

/-- What the variables go on top of: the defaults, or the settings of the file if they can be
    used. -/
inductive Base : Option (String × Except IoError Bytes) → RunnerConfig → Prop
  | defaults : Base none default
  | file {path : String} {file : Except IoError Bytes} {text : String} {c : RunnerConfig} :
      textOf file = .ok text → document? text = some c → Valid c → Base (some (path, file)) c

/-- The layer of a variable: its value if it is set, and what lies below otherwise. -/
def Overlaid {ε α : Type} (value : Option String) (read : String → Except ε α)
    (below chosen : α) : Prop :=
  match value with
  | none => chosen = below
  | some text => read text = .ok chosen

/-- Settings with both variables applied.  The limit is never touched. -/
structure Merged (base : RunnerConfig) (vars : Lookup) (c : RunnerConfig) : Prop where
  chunkSize : Overlaid (vars chunkSizeVar) sizeOf base.chunkSize.toNat c.chunkSize.toNat
  gracePeriod : Overlaid (vars gracePeriodVar) graceOf base.gracePeriod c.gracePeriod
  captureLimit : c.captureLimit = base.captureLimit

/-- The settings that some sources agree on. -/
inductive Settled (s : Sources) : RunnerConfig → Prop
  | mk {base c : RunnerConfig} : Base s.file base → Merged base s.vars c → Valid c → Settled s c

/-- The error of the first stage that fails.  Every stage but the first names what those before
    it came to. -/
inductive FirstFault (s : Sources) : ConfigError → Prop
  | reading {path : String} {file : Except IoError Bytes} {e : IoError} :
      s.file = some (path, file) → textOf file = .error e → FirstFault s (.read path e)
  | parsing {path : String} {file : Except IoError Bytes} {text : String} :
      s.file = some (path, file) → textOf file = .ok text → document? text = none →
      FirstFault s .parse
  | checking {path : String} {file : Except IoError Bytes} {text reason : String}
      {c : RunnerConfig} :
      s.file = some (path, file) → textOf file = .ok text → document? text = some c →
      c.fault? = some reason → FirstFault s (.invalid reason)
  | chunkSize {base : RunnerConfig} {value : String} {e : Text.NumeralError} :
      Base s.file base → s.vars chunkSizeVar = some value → sizeOf value = .error e →
      FirstFault s (.env chunkSizeVar value e.message)
  | gracePeriod {base : RunnerConfig} {size : Nat} {value : String} {e : Duration.UnitsError} :
      Base s.file base → Overlaid (s.vars chunkSizeVar) sizeOf base.chunkSize.toNat size →
      s.vars gracePeriodVar = some value → graceOf value = .error e →
      FirstFault s (.env gracePeriodVar value e.message)
  | merging {base c : RunnerConfig} {reason : String} :
      Base s.file base → Merged base s.vars c → c.fault? = some reason →
      FirstFault s (.invalid reason)

/-! ### What the variables do -/

variable {base c : RunnerConfig} {vars : Lookup} {s : Sources}

theorem readChunkSize_of_ok {value : String} {n : Nat} (h : sizeOf value = .ok n) :
    ∃ size : UInt64, size.toNat = n ∧ readChunkSize value = .ok size := by
  refine ⟨UInt64.ofNat n, ?_, ?_⟩
  · have hle := Text.le_of_readNumeral h
    exact UInt64.toNat_ofNat_of_lt' (by simp only [UInt64.size] at hle ⊢; omega)
  · rw [sizeOf] at h
    rw [readChunkSize, h]

theorem readChunkSize_of_error {value : String} {e : Text.NumeralError}
    (h : sizeOf value = .error e) :
    readChunkSize value = .error (.env chunkSizeVar value e.message) := by
  rw [sizeOf] at h
  rw [readChunkSize, h]

theorem readGracePeriod_of_ok {value : String} {d : Duration} (h : graceOf value = .ok d) :
    readGracePeriod value = .ok d := by
  rw [graceOf] at h
  rw [readGracePeriod, h]

theorem readGracePeriod_of_error {value : String} {e : Duration.UnitsError}
    (h : graceOf value = .error e) :
    readGracePeriod value = .error (.env gracePeriodVar value e.message) := by
  rw [graceOf] at h
  rw [readGracePeriod, h]

theorem mergeChunkSize_of_overlaid (below : RunnerConfig) {size : UInt64}
    (h : Overlaid (vars chunkSizeVar) sizeOf below.chunkSize.toNat size.toNat) :
    below.mergeChunkSize vars = .ok { below with chunkSize := size } := by
  unfold mergeChunkSize
  cases hv : vars chunkSizeVar with
  | none =>
    rw [hv] at h
    obtain rfl : size = below.chunkSize := UInt64.toNat_inj.1 h
    rfl
  | some value =>
    rw [hv] at h
    obtain ⟨size', hsize, hread⟩ := readChunkSize_of_ok h
    obtain rfl : size' = size := UInt64.toNat_inj.1 hsize
    simp only [hread, Except.map]

theorem mergeGracePeriod_of_overlaid (below : RunnerConfig) {grace : Duration}
    (h : Overlaid (vars gracePeriodVar) graceOf below.gracePeriod grace) :
    below.mergeGracePeriod vars = .ok { below with gracePeriod := grace } := by
  unfold mergeGracePeriod
  cases hv : vars gracePeriodVar with
  | none =>
    rw [hv] at h
    obtain rfl : grace = below.gracePeriod := h
    rfl
  | some value =>
    rw [hv] at h
    simp only [readGracePeriod_of_ok h, Except.map]

/-- Once both variables are applied, the check has the last word. -/
theorem merge_of_merged (h : Merged base vars c) : base.merge vars = (c, c.validate) := by
  have hc : { base with chunkSize := c.chunkSize, gracePeriod := c.gracePeriod } = c := by
    obtain ⟨size, grace, limit⟩ := c
    obtain ⟨-, -, hlimit⟩ := h
    cases base
    simp only [mk.injEq, true_and]
    exact hlimit.symm
  have hgrace : mergeGracePeriod { base with chunkSize := c.chunkSize } vars = .ok c :=
    (mergeGracePeriod_of_overlaid { base with chunkSize := c.chunkSize } h.gracePeriod).trans
      (congrArg Except.ok hc)
  simp only [merge, mergeChunkSize_of_overlaid base h.chunkSize, hgrace]

/-- A chunk size that cannot be read leaves the settings as they are. -/
theorem merge_of_chunkSize_error {value : String} {e : Text.NumeralError}
    (hv : vars chunkSizeVar = some value) (he : sizeOf value = .error e) :
    base.merge vars = (base, .error (.env chunkSizeVar value e.message)) := by
  simp only [merge, mergeChunkSize, hv, readChunkSize_of_error he, Except.map]

/-- A grace period that cannot be read leaves the settings with the chunk size applied. -/
theorem merge_of_gracePeriod_error {size : UInt64} {value : String} {e : Duration.UnitsError}
    (hs : Overlaid (vars chunkSizeVar) sizeOf base.chunkSize.toNat size.toNat)
    (hv : vars gracePeriodVar = some value) (he : graceOf value = .error e) :
    base.merge vars =
      ({ base with chunkSize := size }, .error (.env gracePeriodVar value e.message)) := by
  simp only [merge, mergeChunkSize_of_overlaid base hs, mergeGracePeriod, hv,
    readGracePeriod_of_error he, Except.map]

theorem merged_of_merged (h : Merged base vars c) :
    base.merged vars = c.validate.map fun () => c := by
  rw [merged, merge_of_merged h]

theorem merged_of_chunkSize_error {value : String} {e : Text.NumeralError}
    (hv : vars chunkSizeVar = some value) (he : sizeOf value = .error e) :
    base.merged vars = .error (.env chunkSizeVar value e.message) := by
  rw [merged, merge_of_chunkSize_error hv he]
  rfl

theorem merged_of_gracePeriod_error {size : Nat} {value : String} {e : Duration.UnitsError}
    (hs : Overlaid (vars chunkSizeVar) sizeOf base.chunkSize.toNat size)
    (hv : vars gracePeriodVar = some value) (he : graceOf value = .error e) :
    base.merged vars = .error (.env gracePeriodVar value e.message) := by
  -- Whatever the chunk size has come to, it is a word.
  obtain ⟨size, rfl⟩ : ∃ word : UInt64, word.toNat = size := by
    cases hv : vars chunkSizeVar with
    | none => exact ⟨base.chunkSize, by rw [hv] at hs; exact hs.symm⟩
    | some value =>
      rw [hv] at hs
      obtain ⟨word, hword, -⟩ := readChunkSize_of_ok hs
      exact ⟨word, hword⟩
  rw [merged, merge_of_gracePeriod_error hs hv he]
  rfl

/-- Either the chunk size can be applied, or its variable cannot be read. -/
theorem overlaid_or_chunkSize_error (base : RunnerConfig) (vars : Lookup) :
    (∃ size : UInt64, Overlaid (vars chunkSizeVar) sizeOf base.chunkSize.toNat size.toNat) ∨
      ∃ value e, vars chunkSizeVar = some value ∧ sizeOf value = .error e := by
  cases hv : vars chunkSizeVar with
  | none => exact .inl ⟨base.chunkSize, rfl⟩
  | some value =>
    cases hread : sizeOf value with
    | error e => exact .inr ⟨value, e, rfl, hread⟩
    | ok n =>
      obtain ⟨size, rfl, -⟩ := readChunkSize_of_ok hread
      exact .inl ⟨size, hread⟩

/-- Either the grace period can be applied, or its variable cannot be read. -/
theorem overlaid_or_gracePeriod_error (base : RunnerConfig) (vars : Lookup) :
    (∃ grace, Overlaid (vars gracePeriodVar) graceOf base.gracePeriod grace) ∨
      ∃ value e, vars gracePeriodVar = some value ∧ graceOf value = .error e := by
  cases hv : vars gracePeriodVar with
  | none => exact .inl ⟨base.gracePeriod, rfl⟩
  | some value =>
    cases hread : graceOf value with
    | error e => exact .inr ⟨value, e, rfl, hread⟩
    | ok grace => exact .inl ⟨grace, hread⟩

/-- Either both variables can be applied, or the first that cannot be read is to blame. -/
theorem merged_or_fault (hbase : Base s.file base) :
    (∃ c, Merged base s.vars c) ∨ ∃ e, FirstFault s e := by
  -- The chunk size comes first.
  obtain ⟨size, hsize⟩ | ⟨_, _, hv, he⟩ := overlaid_or_chunkSize_error base s.vars
  · obtain ⟨grace, hgrace⟩ | ⟨_, _, hv, he⟩ := overlaid_or_gracePeriod_error base s.vars
    · exact .inl ⟨⟨size, grace, base.captureLimit⟩, hsize, hgrace, rfl⟩
    · exact .inr ⟨_, .gracePeriod hbase hsize hv he⟩
  · exact .inr ⟨_, .chunkSize hbase hv he⟩

/-! ### What the file does -/

/-- A file counts by its text alone. -/
theorem ofFile_eq (path : String) (file : Except IoError Bytes) :
    ofFile path file =
      match textOf file with
      | .error e => .error (.read path e)
      | .ok text => ofToml text := by
  cases file with
  | error e => rfl
  | ok bytes =>
    simp only [ofFile, textOf]
    cases bytes.utf8? <;> rfl

theorem ofFile_of_unreadable {path : String} {file : Except IoError Bytes} {e : IoError}
    (h : textOf file = .error e) : ofFile path file = .error (.read path e) := by
  rw [ofFile_eq, h]

theorem ofFile_of_text {path text : String} {file : Except IoError Bytes}
    (h : textOf file = .ok text) : ofFile path file = ofToml text := by
  rw [ofFile_eq, h]

theorem ofToml_of_none {text : String} (h : document? text = none) :
    ofToml text = .error .parse := by
  rw [document?] at h
  rw [ofToml, h]

theorem ofToml_of_some {text : String} (h : document? text = some c) :
    ofToml text = c.validate.map fun () => c := by
  rw [document?] at h
  rw [ofToml, h]

/-- Over settings that can be used, the sources give what the variables make of them. -/
theorem settings_of_base (h : Base s.file base) : s.settings = base.merged s.vars := by
  obtain ⟨file, vars⟩ := s
  cases h with
  | defaults => rfl
  | file htext hdoc hvalid =>
    simp only [Sources.settings, load, ofFile_of_text htext, ofToml_of_some hdoc,
      validate_of_valid hvalid, Except.map, Except.bind]

theorem settings_of_ofFile_error {path : String} {file : Except IoError Bytes} {e : ConfigError}
    (hfile : s.file = some (path, file)) (h : ofFile path file = .error e) :
    s.settings = .error e := by
  simp only [Sources.settings, hfile, load, h, Except.bind]

/-! ### The layers together -/

/-- Settings that the sources agree on are what they give. -/
theorem Settled.settings_eq (h : Settled s c) : s.settings = .ok c := by
  obtain ⟨hbase, hmerged, hvalid⟩ := h
  rw [settings_of_base hbase, merged_of_merged hmerged, validate_of_valid hvalid]
  rfl

/-- The first stage that fails is the one that is reported. -/
theorem FirstFault.settings_eq {e : ConfigError} (h : FirstFault s e) :
    s.settings = .error e := by
  cases h with
  | reading hfile htext => exact settings_of_ofFile_error hfile (ofFile_of_unreadable htext)
  | parsing hfile htext hdoc =>
    exact settings_of_ofFile_error hfile ((ofFile_of_text htext).trans (ofToml_of_none hdoc))
  | checking hfile htext hdoc hfault =>
    refine settings_of_ofFile_error hfile ((ofFile_of_text htext).trans ?_)
    rw [ofToml_of_some hdoc, validate_of_fault hfault]
    rfl
  | chunkSize hbase hv he => rw [settings_of_base hbase, merged_of_chunkSize_error hv he]
  | gracePeriod hbase hs hv he =>
    rw [settings_of_base hbase, merged_of_gracePeriod_error hs hv he]
  | merging hbase hmerged hfault =>
    rw [settings_of_base hbase, merged_of_merged hmerged, validate_of_fault hfault]
    rfl

/-- Either the file, or its absence, is something to build on, or the file is to blame. -/
theorem base_or_fault (s : Sources) : (∃ base, Base s.file base) ∨ ∃ e, FirstFault s e := by
  cases hfile : s.file with
  | none => exact .inl ⟨default, .defaults⟩
  | some named =>
    obtain ⟨path, file⟩ := named
    cases htext : textOf file with
    | error e => exact .inr ⟨_, .reading hfile htext⟩
    | ok text =>
      cases hdoc : document? text with
      | none => exact .inr ⟨_, .parsing hfile htext hdoc⟩
      | some c =>
        cases hfault : c.fault? with
        | some reason => exact .inr ⟨_, .checking hfile htext hdoc hfault⟩
        | none => exact .inl ⟨c, .file htext hdoc ((fault?_eq_none_iff c).1 hfault)⟩

/-- Sources agree on settings, or some stage is the first to fail. -/
theorem settled_or_firstFault (s : Sources) : (∃ c, Settled s c) ∨ ∃ e, FirstFault s e := by
  obtain ⟨base, hbase⟩ | hfault := base_or_fault s
  · obtain ⟨c, hmerged⟩ | hfault := merged_or_fault hbase
    · cases hfault : c.fault? with
      | some reason => exact .inr ⟨_, .merging hbase hmerged hfault⟩
      | none => exact .inl ⟨c, hbase, hmerged, (fault?_eq_none_iff c).1 hfault⟩
    · exact .inr hfault
  · exact .inr hfault

/-- **Variables override the file, the file overrides the defaults, and the first fault is the
    one reported.**  Settings come out just if the file, if there is one, holds settings that can
    be used, each variable that is set can be read, and the settings with the variables applied
    can be used; they are then those settings.  If not, the error is that of the first stage that
    fails. -/
theorem settings_layered (s : Sources) :
    (∀ c, s.settings = .ok c ↔ Settled s c) ∧
    (∀ e, s.settings = .error e ↔ FirstFault s e) ∧
    ∀ c, s.settings = .ok c →
      1 ≤ c.chunkSize ∧ ∀ limit, c.captureLimit = some limit → 1 ≤ limit.maxBytes := by
  have hok : ∀ c, s.settings = .ok c ↔ Settled s c := by
    refine fun c => ⟨fun h => ?_, Settled.settings_eq⟩
    obtain ⟨c', hsettled⟩ | ⟨e, hfault⟩ := settled_or_firstFault s
    · obtain rfl : c' = c := Except.ok.inj (hsettled.settings_eq.symm.trans h)
      exact hsettled
    · exact nomatch hfault.settings_eq.symm.trans h
  have herror : ∀ e, s.settings = .error e ↔ FirstFault s e := by
    refine fun e => ⟨fun h => ?_, FirstFault.settings_eq⟩
    obtain ⟨c, hsettled⟩ | ⟨e', hfault⟩ := settled_or_firstFault s
    · exact nomatch hsettled.settings_eq.symm.trans h
    · obtain rfl : e' = e := Except.error.inj (hfault.settings_eq.symm.trans h)
      exact hfault
  refine ⟨hok, herror, fun c h => ?_⟩
  obtain ⟨-, -, hvalid⟩ := (hok c).1 h
  exact ⟨hvalid.chunkSize_pos, hvalid.maxBytes_pos⟩

end RunnerConfig

end Outflow
