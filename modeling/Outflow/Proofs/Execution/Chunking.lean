import Outflow.Proofs.Drain.Chunking
import Outflow.Proofs.Execution.Conclusion

/-!
# A run does not depend on how output is cut

Drains that come to the same end (`Drain.SameEnd`) are followed by the same run
(`conclude_of_sameEnd`), and neither the chunk size nor the division of output into events
matters to the end of a drain.  Together: `execute_recut`.
-/

namespace Outflow

namespace Execution

open Drain

variable {config config' : RunnerConfig} {command : Command} {child : Child}
  {r r' : DrainEnd × Drain} {schedule schedule' : Option Schedule}

/-- Two runs that end in the same way, ask the same of their child, and let out the same unless
    a capture limit was passed. -/
structure SameRun (x y : Option Execution) : Prop where
  outcome : x.map Execution.outcome = y.map Execution.outcome
  calls : x.map Execution.calls = y.map Execution.calls
  emitted : (∀ e ∈ x, ∀ args s maxBytes,
      e.outcome ≠ .error (.captureLimitExceeded args s maxBytes)) →
    x.map Execution.emitted = y.map Execution.emitted

/-- Only the grace period of a configuration matters once the streams have been drained. -/
theorem conclude_congr (hgrace : config'.gracePeriod = config.gracePeriod) :
    conclude config' command child r = conclude config command child r := by
  obtain ⟨ending, d⟩ := r
  have hexecution : ∀ f, Finish.execution config' command child d f =
      Finish.execution config command child d f := by
    intro f
    cases f with
    | exited code time => rfl
    | interrupted calls why time =>
      rw [Finish.execution, Finish.execution, interrupted, interrupted, hgrace]
  rw [conclude_eq_finish, conclude_eq_finish]
  exact Option.map_congr fun f _ => hexecution f

/-- What a drain still faces, and which streams are open, does not matter to what follows. -/
theorem conclude_eq (hending : r.1 = r'.1) (hclock : r.2.clock = r'.2.clock)
    (hcaptures : r.2.captures = r'.2.captures) (htrail : r.2.trail = r'.2.trail) :
    conclude config command child r = conclude config command child r' := by
  obtain ⟨ending, captures, opened, pending, clock, trail⟩ := r
  obtain ⟨ending', captures', opened', pending', clock', trail'⟩ := r'
  simp only at hending hclock hcaptures htrail
  subst hending hclock hcaptures htrail
  rw [conclude_eq_finish, conclude_eq_finish]
  exact Option.map_congr fun f _ => by cases f <;> rfl

/-- Drains that come to the same end are followed by the same run. -/
theorem conclude_of_sameEnd (h : SameEnd r r') :
    SameRun (conclude config command child r) (conclude config command child r') := by
  by_cases hover : ∃ o, r.1 = .failed (.overflow o)
  · obtain ⟨o, ho⟩ := hover
    have ho' : r'.1 = .failed (.overflow o) := h.ending ▸ ho
    obtain ⟨ending, d⟩ := r
    obtain ⟨ending', d'⟩ := r'
    simp only at ho ho'
    subst ho ho'
    -- The outcome names the limit, and nothing that was captured.
    refine ⟨rfl, rfl, fun hlimit => ?_⟩
    exact absurd rfl (hlimit _ rfl command.args o.stream o.maxBytes)
  · have hrecord := h.record fun o ho => hover ⟨o, ho⟩
    rw [conclude_eq h.ending h.clock hrecord.1 hrecord.2]
    exact ⟨rfl, rfl, fun _ => rfl⟩

/-- **A run does not depend on how output is cut.**  With any other chunk size, and with any
    other division of the output into events, it has the same outcome and asks the same of its
    child; and unless a capture limit was passed, the same is let out in the same order. -/
theorem execute_recut (config : RunnerConfig) (chunkSize : UInt64) (command : Command)
    (child : Child) (schedule schedule' : Option Schedule)
    (h : Option.Rel Schedule.Recut schedule schedule') :
    SameRun (execute config command child schedule)
      (execute { config with chunkSize := chunkSize } command child schedule') := by
  rw [execute_eq_conclude, execute_eq_conclude, conclude_congr (by rfl)]
  apply conclude_of_sameEnd
  cases h with
  | none =>
    have hidle : (idle command.live config.captureLimit).settled = true := rfl
    rw [drained, drained, drain, drain, run_settled hidle, run_settled (by exact hidle)]
    exact SameEnd.refl _
  | @some σ τ h =>
    exact run_recut config.chunkSize.toNat chunkSize.toNat (deadline command)
      (start command.live config.captureLimit σ) h

/-- A character that is cut in two and read an octet at a time. -/
theorem execute_recut_character :
    let cat : Command := ⟨"cat", [], by decide, none, none, .captured, true, none⟩
    let child : Child := ⟨none, 0, .exits 0, .ok ()⟩
    SameRun (execute .default cat child (some [.data .stdout [195, 169, 10]]))
      (execute { RunnerConfig.default with chunkSize := 0 } cat child
        (some [.data .stdout [195], .data .stdout [169, 10]])) := by
  intro cat child
  apply execute_recut
  apply Option.Rel.some
  exact .rel _ _ (.intro [] [] .stdout [195] [169, 10] (by decide) (by decide))

end Execution

end Outflow
