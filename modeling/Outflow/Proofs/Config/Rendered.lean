import Outflow.Config.File
import Outflow.Proofs.Duration.Units
import Outflow.Proofs.Toml.Lines

/-!
# The document of a configuration reads back

`RunnerConfig.render` writes a document of plain lines (`toList_render`), and reading them gives
the entries of the configuration (`read?_render`), in which every setting is found again
(`ofEntries?_entries`).

## Key results

- `ofToml_render`: settings that can be used come back from their document
-/

namespace Outflow

/-- The canonical spelling of a duration needs no escapes. -/
theorem Duration.isPlain_render (d : Duration) : Toml.IsPlain d.render := by
  intro c hc
  obtain hdigit | hletter | rfl := Duration.mem_toList_render hc
  · exact Text.forall_isDigit
      (p := fun c => Toml.isTextChar c = true ∧ c ≠ '"' ∧ c ≠ '\\') (by decide) hdigit
  · refine ⟨?_, ?_, ?_⟩
    · have hcode := Duration.toNat_of_isUnitLetter hletter
      simp only [Toml.isTextChar, Bool.or_eq_true, decide_eq_true_eq, Bool.and_eq_true]
      omega
    · rintro rfl
      contradiction
    · rintro rfl
      contradiction
  · decide

namespace RunnerConfig

open Toml (Value Entries Line)

/-! ### Lines -/

/-- The lines of a limit. -/
def limitLines (l : CaptureLimit) : List Line :=
  [.blank, .header "capture_limit", .assign "max_bytes" (.number l.maxBytes.toNat),
    .assign "strategy" (.text l.strategy.name)]

/-- The lines of a configuration. -/
def lines (c : RunnerConfig) : List Line :=
  [.assign "chunk_size" (.number c.chunkSize.toNat),
    .assign "grace_period" (.text c.gracePeriod.render)] ++ (c.captureLimit.map limitLines).getD []

/-- A word is written with the digits of its number. -/
theorem toList_toString (n : UInt64) : (toString n).toList = Nat.toDigits 10 n.toNat :=
  (congrArg String.toList (Nat.toString_eq_repr (n := n.toNat))).trans Nat.toList_repr

theorem toList_renderLimit (l : CaptureLimit) :
    (renderLimit l).toList = (limitLines l).flatMap Line.spelling := by
  have hrender : renderLimit l = "\n[capture_limit]\nmax_bytes = " ++ toString l.maxBytes ++
    "\nstrategy = \"" ++ l.strategy.name ++ "\"\n" := rfl
  simp only [hrender, String.toList_append, toList_toString, limitLines, List.flatMap_cons,
    List.flatMap_nil, Line.spelling, Toml.PlainValue.spelling]
  simp

theorem toList_render (c : RunnerConfig) :
    c.render.toList = c.lines.flatMap Line.spelling := by
  have hrender : c.render = "chunk_size = " ++ toString c.chunkSize ++ "\ngrace_period = \"" ++
    c.gracePeriod.render ++ "\"\n" ++ ((c.captureLimit.map renderLimit).getD "") := by
    obtain ⟨size, grace, _ | limit⟩ := c <;> rfl
  have hlimit : ((c.captureLimit.map renderLimit).getD "").toList =
      ((c.captureLimit.map limitLines).getD []).flatMap Line.spelling := by
    cases c.captureLimit with
    | none => rfl
    | some l => exact toList_renderLimit l
  simp only [hrender, String.toList_append, hlimit, toList_toString, lines, List.flatMap_append,
    List.flatMap_cons, List.flatMap_nil, Line.spelling, Toml.PlainValue.spelling]
  simp

theorem faithful_limitLines (limit : CaptureLimit) : ∀ l ∈ limitLines limit, l.Faithful := by
  intro l hl
  simp only [limitLines, List.mem_cons, List.not_mem_nil, or_false] at hl
  obtain rfl | rfl | rfl | rfl := hl
  · trivial
  · exact (by decide : Toml.IsBareKey "capture_limit")
  · exact ⟨by decide, trivial⟩
  · exact ⟨by decide, by cases limit.strategy <;> decide⟩

theorem faithful_lines (c : RunnerConfig) : ∀ l ∈ c.lines, l.Faithful := by
  intro l hl
  rw [lines, List.mem_append] at hl
  obtain hl | hl := hl
  · simp only [List.mem_cons, List.not_mem_nil, or_false] at hl
    obtain rfl | rfl := hl
    · exact ⟨by decide, trivial⟩
    · exact ⟨by decide, c.gracePeriod.isPlain_render⟩
  · cases hc : c.captureLimit with
    | none => simp [hc] at hl
    | some limit =>
      rw [hc] at hl
      exact faithful_limitLines limit l hl

/-- The entries of a limit. -/
def limitValue (l : CaptureLimit) : Value :=
  .table .headed [("max_bytes", .integer (some l.maxBytes.toNat)),
    ("strategy", .string l.strategy.name)]

/-- The entries of a configuration. -/
def entries (c : RunnerConfig) : Entries :=
  [("chunk_size", .integer (some c.chunkSize.toNat)),
    ("grace_period", .string c.gracePeriod.render)] ++
  (c.captureLimit.map fun l => ("capture_limit", limitValue l)).toList

theorem read?_render (c : RunnerConfig) : Toml.read? c.render = some c.entries := by
  rw [Toml.read?_eq_foldlM c.lines c.toList_render c.faithful_lines, lines, entries]
  cases c.captureLimit with
  | none => rfl
  | some limit => rfl

theorem word?_toNat (n : UInt64) : word? (.integer (some n.toNat)) = some n := by
  have hn := n.toNat_lt
  rw [word?, if_pos ⟨by omega, by simp only [UInt64.size]; omega⟩, Int.toNat_natCast,
    UInt64.ofNat_toNat]

theorem limit?_limitValue (l : CaptureLimit) : limit? (limitValue l) = some l := by
  have hstrategy : strategy? (.string l.strategy.name) = some l.strategy := by
    cases l.strategy <;> decide
  have hlimit : limit? (limitValue l) =
      limitOf? (.integer (some l.maxBytes.toNat)) (some (.string l.strategy.name)) := rfl
  rw [hlimit]
  simp [limitOf?, word?_toNat, hstrategy]

theorem ofEntries?_entries (c : RunnerConfig) : ofEntries? c.entries = some c := by
  have hgrace : duration? (.string c.gracePeriod.render) = some c.gracePeriod := by
    rw [duration?, Duration.ofUnits?_render]
    rfl
  obtain ⟨size, grace, limit⟩ := c
  cases limit with
  | none =>
    change (do
      let size ← word? (.integer (some size.toNat))
      let grace ← duration? (.string grace.render)
      some (⟨size, grace, none⟩ : RunnerConfig)) = _
    rw [word?_toNat, hgrace]
    rfl
  | some limit =>
    change (do
      let size ← word? (.integer (some size.toNat))
      let grace ← duration? (.string grace.render)
      let limit ← (limit? (limitValue limit)).map some
      some (⟨size, grace, limit⟩ : RunnerConfig)) = _
    rw [word?_toNat, hgrace, limit?_limitValue]
    rfl

/-- **Settings that can be used come back from their document.** -/
theorem ofToml_render (c : RunnerConfig) (h : c.validate = .ok ()) :
    ofToml c.render = .ok c := by
  rw [ofToml, read?_render, Option.bind_some, ofEntries?_entries]
  simp only [h]
  rfl

/-- The largest numbers and the longest grace period with every unit in it. -/
theorem ofToml_render_largest :
    validate ⟨18446744073709551615, ⟨18446744073709551615, 999999999, by decide⟩,
      some ⟨18446744073709551615, .fail⟩⟩ = .ok () ∧
    ofToml (render ⟨18446744073709551615, ⟨18446744073709551615, 999999999, by decide⟩,
      some ⟨18446744073709551615, .fail⟩⟩) =
      .ok ⟨18446744073709551615, ⟨18446744073709551615, 999999999, by decide⟩,
        some ⟨18446744073709551615, .fail⟩⟩ :=
  ⟨rfl, ofToml_render _ rfl⟩

end RunnerConfig

end Outflow
