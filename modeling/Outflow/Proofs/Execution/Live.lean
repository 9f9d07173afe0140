import Outflow.Proofs.Drain.Live
import Outflow.Proofs.Execution.Cleanup

/-!
# Forwarding lines only observes

A run that forwards no lines is the run that does, without the lines (`execute_muted`).  And what
a run forwards does not depend on how much of the output it keeps (`lines_limit`).
-/

namespace Outflow

namespace Emission

/-- Without the lines, a log to which they are forwarded has everything but their entries. -/
theorem forwardedLogs_withoutLines (pid : Pid) {es : List Emission}
    (h : ∀ entry ∈ logs es, entry.source ≠ .output) :
    forwardedLogs pid (withoutLines es) =
      (forwardedLogs pid es).filter (·.source ≠ .output) := by
  induction es with
  | nil => rfl
  | cons e es ih =>
    cases e with
    | line s text => simpa [forwardedLogs, withoutLines, logs, LogEntry.forwarded] using ih h
    | log entry =>
      have hentry : entry.source ≠ .output := h entry (.head _)
      have hrest := ih fun entry hentry => h entry (.tail _ hentry)
      simpa [forwardedLogs, withoutLines, logs, hentry] using hrest

end Emission

namespace Execution

variable {config : RunnerConfig} {command : Command} {child : Child} {schedule : Option Schedule}
  {e : Execution}

/-! ### Without the lines -/

/-- A run, without the lines that it forwards. -/
def withoutLines (e : Execution) : Execution :=
  { e with emitted := Emission.withoutLines e.emitted }

theorem drain_muted (config : RunnerConfig) (command : Command) (schedule : Option Schedule) :
    drain config { command with live := false } schedule =
      (drain config { command with live := true } schedule).muted := by
  cases schedule <;> rfl

theorem Finish.execution_muted (d : Drain) (f : Finish) :
    f.execution config { command with live := false } child d.muted =
      withoutLines (f.execution config { command with live := true } child d) := by
  have hemitted : d.muted.emitted = Emission.withoutLines d.emitted := Drain.emitted_muted d
  cases f with
  | exited code time =>
    rw [Finish.execution, Finish.execution, Execution.exited, Execution.exited, withoutLines,
      hemitted]
    rfl
  | interrupted calls why time =>
    have hclock : ({ d.muted with clock := time } : Drain).emitted = d.muted.emitted := rfl
    rw [Finish.execution, Finish.execution, Execution.interrupted, Execution.interrupted,
      withoutLines, hclock, hemitted, Emission.withoutLines_append]
    cases child.shutdown <;> rfl

/-- **A run that forwards no lines is the run that does, without the lines.** -/
theorem execute_muted (config : RunnerConfig) (command : Command) (child : Child)
    (schedule : Option Schedule) :
    execute config { command with live := false } child schedule =
      (execute config { command with live := true } child schedule).map withoutLines := by
  have hdrained : drained config { command with live := false } schedule =
      ((drained config { command with live := true } schedule).1,
        (drained config { command with live := true } schedule).2.muted) := by
    rw [drained, drain_muted, Drain.run_muted]
    rfl
  rw [execute_eq_finish, execute_eq_finish, hdrained, Option.map_map]
  exact Option.map_congr fun f _ => Finish.execution_muted _ f

/-- No entry that a run itself writes to the log is a line of output. -/
theorem source_of_mem_logs (h : execute config command child schedule = some e) :
    ∀ entry ∈ Emission.logs e.emitted, entry.source ≠ .output := by
  intro entry hentry
  rw [emitted_execute h, Emission.logs_append, List.mem_append] at hentry
  obtain hdrain | hnote := hentry
  · rw [(onlyWarned_drained config command schedule entry hdrain).2]
    decide
  · unfold cleanupNotes at hnote
    split at hnote
    · contradiction
    · split at hnote
      · obtain rfl := List.mem_singleton.1 hnote
        simp
      · contradiction

/-! ### With another limit -/

theorem drained_ne_overflow (h : execute config command child schedule = some e)
    (hlimit : ∀ args s maxBytes, e.outcome ≠ .error (.captureLimitExceeded args s maxBytes)) :
    ∀ o, (drained config command schedule).1 ≠ .failed (.overflow o) := by
  intro o ho
  rw [execute_eq_conclude] at h
  generalize drained config command schedule = r at h ho
  obtain ⟨ending, d⟩ := r
  obtain rfl : ending = .failed (.overflow o) := ho
  obtain rfl := Option.some.inj h
  exact hlimit _ _ _ rfl

/-- **The lines that a run forwards do not depend on the limit,** unless it is passed. -/
theorem lines_limit {limit limit' : Option CaptureLimit} {e e' : Execution}
    (h : execute { config with captureLimit := limit } command child schedule = some e)
    (h' : execute { config with captureLimit := limit' } command child schedule = some e')
    (hlimit : ∀ args s maxBytes, e.outcome ≠ .error (.captureLimitExceeded args s maxBytes))
    (hlimit' : ∀ args s maxBytes, e'.outcome ≠ .error (.captureLimitExceeded args s maxBytes)) :
    Emission.lines e.emitted = Emission.lines e'.emitted := by
  have hover := drained_ne_overflow h hlimit
  have hover' := drained_ne_overflow h' hlimit'
  rw [lines_execute h, lines_execute h']
  have hstart : Drain.SameLines (drain { config with captureLimit := limit } command schedule)
      (drain { config with captureLimit := limit' } command schedule) := by
    cases schedule <;> exact
      { opened := rfl
        clock := rfl
        source := fun s => by cases s <;> rfl
        buffer := fun s => by cases s <;> rfl
        lines := rfl }
  cases schedule with
  | none => exact Drain.run_sameLines _ _ [] hstart hover hover'
  | some σ => exact Drain.run_sameLines _ _ σ hstart hover hover'

/-! ### Observing -/

/-- **Forwarding lines only observes.**  A run that forwards no lines has the same outcome, asks
    the same of its child and writes the same to the log; a log to which lines are forwarded
    lacks their entries and no others.  And with two limits, neither of them passed, a run
    forwards the same lines in the same order. -/
theorem execute_live (config : RunnerConfig) (command : Command) (child : Child)
    (schedule : Option Schedule) :
    let run live := execute config { command with live := live } child schedule
    let keep limit := execute { config with captureLimit := limit } command child schedule
    ((run false).map Execution.outcome = (run true).map Execution.outcome ∧
      (run false).map Execution.calls = (run true).map Execution.calls ∧
      (run false).map (fun e => Emission.logs e.emitted) =
        (run true).map (fun e => Emission.logs e.emitted) ∧
      (∀ e ∈ run false, Emission.lines e.emitted = []) ∧
      ∀ pid, (run false).map (fun e => Emission.forwardedLogs pid e.emitted) =
        (run true).map fun e =>
          (Emission.forwardedLogs pid e.emitted).filter (·.source ≠ .output)) ∧
    ∀ limit limit', ∀ e ∈ keep limit, ∀ e' ∈ keep limit',
      (∀ args s maxBytes, e.outcome ≠ .error (.captureLimitExceeded args s maxBytes)) →
      (∀ args s maxBytes, e'.outcome ≠ .error (.captureLimitExceeded args s maxBytes)) →
      Emission.lines e.emitted = Emission.lines e'.emitted := by
  intro run keep
  refine ⟨?_, fun limit limit' e he e' he' => lines_limit he he'⟩
  have hmuted : run false = (run true).map withoutLines :=
    execute_muted config command child schedule
  rw [hmuted]
  simp only [Option.map_map]
  refine ⟨rfl, rfl, ?_, ?_, fun pid => ?_⟩
  · exact Option.map_congr fun e _ => Emission.logs_withoutLines e.emitted
  · intro e he
    obtain ⟨e', -, rfl⟩ := Option.map_eq_some_iff.1 he
    exact Emission.lines_withoutLines e'.emitted
  · exact Option.map_congr fun e he =>
      Emission.forwardedLogs_withoutLines pid (source_of_mem_logs he)

/-- A line and a half, of which one octet is kept, or all of it. -/
theorem execute_live_dropped :
    let printf : Command := ⟨"printf", ["a\nb"], by decide, none, none, .captured, true, none⟩
    let run limit := execute { RunnerConfig.default with captureLimit := limit } printf
      ⟨none, 0, .exits 0, .ok ()⟩ (some [.data .stdout [97, 10, 98]])
    ∃ e e', run (some ⟨1, .dropOldest⟩) = some e ∧ run none = some e' ∧
      e.outcome.untimed = .ok ⟨printf.args, 0, [98], [], .zero⟩ ∧
      e'.outcome.untimed = .ok ⟨printf.args, 0, [97, 10, 98], [], .zero⟩ ∧
      Emission.lines e.emitted = Emission.lines e'.emitted := by
  intro printf run
  have hdrained : ∀ limit, (Capture.start .stdout true limit).refusal? [97, 10, 98] = none →
      drained { RunnerConfig.default with captureLimit := limit } printf
        (some [.data .stdout [97, 10, 98]]) = (.ended,
          ((Drain.start true limit []).recorded .stdout [97, 10, 98]).closeAll.facing []) :=
    fun limit hr => (Drain.run_data (d := .start true limit []) (s := .stdout) rfl (by decide)
      hr).trans (Drain.run_nil _)
  have hdropped : ∃ e, run (some ⟨1, .dropOldest⟩) = some e ∧
      e.outcome.untimed = .ok ⟨printf.args, 0, [98], [], .zero⟩ := by
    simp only [run]
    rw [execute_eq_conclude, hdrained _ (by decide), conclude_eq_finish, finish_exits rfl rfl]
    exact ⟨_, rfl, rfl⟩
  have hall : ∃ e, run none = some e ∧
      e.outcome.untimed = .ok ⟨printf.args, 0, [97, 10, 98], [], .zero⟩ := by
    simp only [run]
    rw [execute_eq_conclude, hdrained _ rfl, conclude_eq_finish, finish_exits rfl rfl]
    exact ⟨_, rfl, rfl⟩
  obtain ⟨e, he, hend⟩ := hdropped
  obtain ⟨e', he', hend'⟩ := hall
  refine ⟨e, e', he, he', hend, hend', ?_⟩
  obtain ⟨-, hlines⟩ := execute_live .default printf ⟨none, 0, .exits 0, .ok ()⟩
    (some [.data .stdout [97, 10, 98]])
  refine hlines _ _ e he e' he' (fun _ _ _ h => ?_) fun _ _ _ h => ?_
  · rw [h] at hend
    contradiction
  · rw [h] at hend'
    contradiction

end Execution

end Outflow
