import Outflow.Config.File
import Outflow.Proofs.Toml.Lines

/-!
# Keys that no configuration has

A document that names a setting which does not exist is refused.  Within the table of a limit it
is not: a key that no limit has is passed over together with its value, as long as the value can
be passed over at all, and the limit is the one of the table without it.

## Key results

- `ofEntries?_of_unknown`: an unknown setting
- `limit?_table`: unknown keys in the table of a limit
- `ofToml_unknown_keys`: what both come to for a document
- `ofToml_strategy_misspelt`: a misspelt strategy, which is left at the one that holds otherwise
-/

namespace Outflow

namespace Toml.Entries

theorem get?_cons (e : String × Value) (es : Entries) (key : String) :
    Entries.get? (e :: es) key = if e.1 = key then some e.2 else es.get? key := by
  rw [get?, List.find?_cons]
  by_cases h : e.1 = key
  · simp [h]
  · simp [h, get?]

/-- Entries of other keys do not matter for a key. -/
theorem get?_filter (es : Entries) {p : String → Bool} {key : String} (h : p key = true) :
    Entries.get? (es.filter fun e => p e.1) key = es.get? key := by
  induction es with
  | nil => rfl
  | cons e es ih =>
    rw [get?_cons, List.filter_cons]
    by_cases hkey : e.1 = key
    · rw [if_pos hkey, if_pos (hkey ▸ h), get?_cons, if_pos hkey]
    · rw [if_neg hkey, ← ih]
      split
      · rw [get?_cons, if_neg hkey]
      · rfl

theorem replace_cons (e : String × Value) (es : Entries) (key : String) (v : Value) :
    Entries.replace (e :: es) key v = (e.1, if e.1 = key then v else e.2) :: es.replace key v := by
  simp only [replace, List.map_cons, List.cons.injEq, and_true]
  split <;> rfl

@[simp] theorem keys_replace (es : Entries) (key : String) (v : Value) :
    (es.replace key v).keys = es.keys := by
  induction es with
  | nil => rfl
  | cons e es ih =>
    rw [replace_cons, keys, List.map_cons]
    exact congrArg (e.1 :: ·) ih

theorem get?_replace_self {es : Entries} {key : String} {old : Value}
    (h : es.get? key = some old) (v : Value) : (es.replace key v).get? key = some v := by
  induction es with
  | nil => contradiction
  | cons e es ih =>
    rw [get?_cons] at h
    rw [replace_cons, get?_cons]
    by_cases hkey : e.1 = key
    · simp only [if_pos hkey]
    · rw [if_neg hkey] at h ⊢
      exact ih h

theorem get?_replace_of_ne (es : Entries) {key other : String} (h : other ≠ key) (v : Value) :
    (es.replace key v).get? other = es.get? other := by
  induction es with
  | nil => rfl
  | cons e es ih =>
    rw [replace_cons, get?_cons, get?_cons, ih]
    by_cases hkey : e.1 = key
    · have hother : e.1 ≠ other := fun he => h (he.symm.trans hkey)
      rw [if_neg hother, if_neg hother]
    · simp only [if_neg hkey]

end Toml.Entries

namespace RunnerConfig

open Toml (Value Entries Origin)

/-! ### Unknown settings -/

/-- Settings that do not exist are refused. -/
theorem ofEntries?_of_unknown {es : Entries} (h : ∃ key ∈ es.keys, key ∉ settingKeys) :
    ofEntries? es = none := by
  obtain ⟨key, hmem, hunknown⟩ := h
  refine if_neg fun hall => hunknown ?_
  simpa using List.all_eq_true.1 hall key hmem

/-! ### Unknown keys in the table of a limit -/

/-- The entries of a table that a limit has. -/
def limitEntries (es : Entries) : Entries := es.filter fun e => limitKeys.contains e.1

/-- Whether everything in a table that no limit has can be passed over. -/
def passable (es : Entries) : Bool := es.all fun (key, v) => limitKeys.contains key || ignorable v

theorem passable_limitEntries (es : Entries) : passable (limitEntries es) = true := by
  simp only [passable, limitEntries, List.all_eq_true, List.mem_filter, Bool.or_eq_true]
  exact fun e he => .inl he.2

/-- Unknown keys are passed over, if they can be. -/
theorem limit?_table (origin : Origin) (es : Entries) :
    limit? (.table origin es) =
      if passable es then limit? (.table origin (limitEntries es)) else none := by
  have hmax : Entries.get? (limitEntries es) "max_bytes" = Entries.get? es "max_bytes" :=
    es.get?_filter (p := limitKeys.contains) rfl
  have hstrategy : Entries.get? (limitEntries es) "strategy" = Entries.get? es "strategy" :=
    es.get?_filter (p := limitKeys.contains) rfl
  have hpassable := passable_limitEntries es
  simp only [passable] at hpassable
  simp only [limit?, hmax, hstrategy, hpassable, if_true]
  cases Entries.get? es "max_bytes" with
  | none => simp
  | some v => rfl

/-- The settings of a document, checked. -/
def ofDocument (es : Entries) : Except ConfigError RunnerConfig :=
  match ofEntries? es with
  | none => .error .parse
  | some c => c.validate.map fun () => c

theorem ofToml_of_read? {text : String} {es : Entries} (h : Toml.read? text = some es) :
    ofToml text = ofDocument es := by
  rw [ofToml, h]
  rfl

theorem ofDocument_limit {es : Entries} {origin : Origin} {entries : Entries}
    (h : es.get? "capture_limit" = some (.table origin entries)) :
    ofDocument es =
      if passable entries then
        ofDocument (es.replace "capture_limit" (.table origin (limitEntries entries)))
      else .error .parse := by
  obtain ⟨pruned, hpruned⟩ : ∃ pruned,
      pruned = es.replace "capture_limit" (.table origin (limitEntries entries)) := ⟨_, rfl⟩
  have hlimit : pruned.get? "capture_limit" = some (.table origin (limitEntries entries)) := by
    rw [hpruned, Entries.get?_replace_self h]
  have hsize : pruned.get? "chunk_size" = es.get? "chunk_size" := by
    rw [hpruned, Entries.get?_replace_of_ne _ (by decide)]
  have hgrace : pruned.get? "grace_period" = es.get? "grace_period" := by
    rw [hpruned, Entries.get?_replace_of_ne _ (by decide)]
  have hkeys : pruned.keys = es.keys := by rw [hpruned, Entries.keys_replace]
  rw [← hpruned]
  have hentries : ofEntries? es = if passable entries then ofEntries? pruned else none := by
    simp only [ofEntries?, hkeys, setting?, hlimit, hsize, hgrace, h]
    rw [limit?_table origin entries]
    cases passable entries with
    | true => rfl
    | false => simp
  rw [ofDocument, hentries]
  cases passable entries with
  | true => rfl
  | false => rfl

/-- **Unknown settings are refused, unknown keys of a limit are not.**  A document with an unknown
    setting holds no configuration.  One whose limit is a table holds the configuration of the
    document without the keys of that table that no limit has, unless the value of such a key
    cannot be passed over. -/
theorem ofToml_unknown_keys {text : String} {es : Entries} (h : Toml.read? text = some es) :
    ((∃ key ∈ es.keys, key ∉ settingKeys) → ofToml text = .error .parse) ∧
    ∀ origin entries, es.get? "capture_limit" = some (.table origin entries) →
      ofToml text =
        if passable entries then
          ofDocument (es.replace "capture_limit" (.table origin (limitEntries entries)))
        else .error .parse := by
  rw [ofToml_of_read? h]
  refine ⟨fun hunknown => ?_, fun origin entries hlimit => ofDocument_limit hlimit⟩
  rw [ofDocument, ofEntries?_of_unknown hunknown]

/-- A limit that misspells its strategy. -/
private theorem read?_misspelt :
    Toml.read? "[capture_limit]\nmax_bytes = 10\nstratgy = \"fail\"\n" =
      some [("capture_limit", .table .headed
        [("max_bytes", .integer (some 10)), ("stratgy", .string "fail")])] := by
  rw [Toml.read?_eq_foldlM [.header "capture_limit", .assign "max_bytes" (.number 10),
    .assign "stratgy" (.text "fail")] (by decide) (by decide)]
  rfl

/-- What a misspelt strategy says is passed over. -/
theorem ofToml_unknown_keys_strategy :
    (∃ es, Toml.read? "[capture_limit]\nmax_bytes = 10\nstratgy = \"fail\"\n" = some es) ∧
    ofToml "[capture_limit]\nmax_bytes = 10\nstratgy = \"fail\"\n" =
      ofDocument [("capture_limit", .table .headed [("max_bytes", .integer (some 10))])] := by
  obtain ⟨-, hlimit⟩ := ofToml_unknown_keys read?_misspelt
  exact ⟨⟨_, read?_misspelt⟩, hlimit .headed _ rfl⟩

/-- A limit that asks for failure under a misspelt name is one that drops the oldest output. -/
theorem ofToml_strategy_misspelt :
    ∃ es entries,
      Toml.read? "[capture_limit]\nmax_bytes = 10\nstratgy = \"fail\"\n" = some es ∧
      es.get? "capture_limit" = some (.table .headed entries) ∧
      "stratgy" ∈ Entries.keys entries ∧ "stratgy" ∉ limitKeys ∧
      ofToml "[capture_limit]\nmax_bytes = 10\nstratgy = \"fail\"\n" =
        .ok ⟨8192, .ofSecs 1, some ⟨10, .dropOldest⟩⟩ := by
  refine ⟨_, _, read?_misspelt, rfl, by decide, by decide, ?_⟩
  rw [ofToml_of_read? read?_misspelt]
  decide

end RunnerConfig

end Outflow
