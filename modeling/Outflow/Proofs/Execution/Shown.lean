import Outflow.Proofs.Execution.Interrupted
import Outflow.Proofs.Report

/-!
# Which lines of stderr a live run shows

After a run that forwards its lines the text report leaves the captured stderr out, because its
lines have been forwarded.  That is so of every line but one: when a deadline cuts a run in the
middle of a line of stderr, what there is of the line has been captured, but neither was it
forwarded nor is it reported (`execute_stderr`, `execute_hides_half`).
-/

namespace Outflow

namespace Execution

open Outcome

variable {config : RunnerConfig} {command : Command} {child : Child} {schedule : Option Schedule}
  {e : Execution}

/-- Only a timeout hands over the output of a stream that has not ended. -/
theorem timeout_of_opened (h : execute config command child schedule = some e) {s : Stream}
    (ho : (drained config command schedule).2.opened.get s = true) {out err : Bytes}
    (hp : e.outcome.output? = some (out, err)) :
    ∃ timeout, e.outcome = .error (.timeout command.args timeout out err) := by
  obtain ⟨f, hf, rfl⟩ := exists_finish h
  cases f with
  | exited code time =>
    -- A child is only waited for once both of its streams have ended.
    have hended : (drained config command schedule).1 = .ended := by
      cases hr : (drained config command schedule).1 with
      | ended => rfl
      | _ => simp [hr, finish] at hf
    obtain ⟨reads, last, -, hstops⟩ := exists_drained_stops config command schedule
    rw [hstops.opened] at ho
    have hsettled := hstops.ended hended
    rw [Drain.settled_eq_false ho] at hsettled
    contradiction
  | interrupted calls why time =>
    cases why with
    | drain error => cases error <;> contradiction
    | wait error => contradiction
    | timedOut =>
      cases hp
      exact ⟨_, rfl⟩

/-- **A live run without a capture limit shows the lines of the stderr that it hands over, but
    for one that a deadline cuts.**  If stderr has ended every line has been forwarded.  If not,
    the run has timed out; the complete lines have been forwarded, and the text report adds
    nothing to them but that there was a timeout.  So what follows the last newline is lost to a
    reader of both exactly if it is not empty. -/
theorem execute_stderr (config : RunnerConfig) (command : Command) (child : Child)
    (schedule : Option Schedule) (hlive : command.live = true)
    (hlimit : config.captureLimit = none) :
    ∀ e, execute config command child schedule = some e →
    ∀ out err, e.outcome.output? = some (out, err) →
      let cut := (drained config command schedule).2.opened.stderr
      let forwarded := Emission.linesFrom .stderr e.emitted
      forwarded = (if cut then err.completeLines else err.allLines) ∧
      (forwarded = err.allLines ↔ cut = false ∨ err.afterNewline = []) ∧
      (cut = true → ∃ timeout, e.outcome = .error (.timeout command.args timeout out err) ∧
        e.outcome.written true .stderr =
          textLine s!"Error: {(RunError.timeout command.args timeout [] []).message}") := by
  intro e he out err hp cut forwarded
  obtain ⟨reads, last, hreached, hstops⟩ := exists_drained_stops config command schedule
  -- Without a limit, what is handed over is what was read.
  have hread : err = reads.octetsOf .stderr := by
    obtain ⟨-, herr⟩ := output?_of_stops hreached hstops hlive he hp
    rw [hlimit] at herr
    exact herr
  have hforwarded : forwarded = if cut then err.completeLines else err.allLines := by
    have hlines := linesFrom_of_stops hreached hstops hlive he .stderr
    rw [← hstops.opened, ← hread] at hlines
    exact hlines
  refine ⟨hforwarded, ?_, fun hcut => ?_⟩
  · rw [hforwarded]
    cases cut with
    | false => simp
    | true => simp [Bytes.allLines]
  · obtain ⟨timeout, htimeout⟩ := timeout_of_opened he (s := .stderr) hcut hp
    exact ⟨timeout, htimeout, by rw [htimeout, written_timeout]⟩

/-- A program that says half a line and fails: the line is forwarded when stderr ends. -/
theorem execute_stderr_failed :
    let tool : Command := ⟨"tool", [], by decide, none, none, .captured, true, none⟩
    tool.live = true ∧ RunnerConfig.default.captureLimit = none ∧
      ∃ e, execute .default tool ⟨none, 0, .exits 2, .ok ()⟩
          (some [.data .stderr [98, 97, 100]]) = some e ∧
        e.outcome.output? = some ([], [98, 97, 100]) ∧
        Emission.linesFrom .stderr e.emitted = ["bad"] := by
  intro tool
  refine ⟨rfl, rfl, ?_⟩
  have hdrained : drained .default tool (some [.data .stderr [98, 97, 100]]) =
      (.ended, ((Drain.start true none []).recorded .stderr [98, 97, 100]).closeAll.facing []) :=
    (Drain.run_data (d := .start true none []) (s := .stderr) rfl (by decide) rfl).trans
      (Drain.run_nil _)
  have hrun : ∃ e, execute .default tool ⟨none, 0, .exits 2, .ok ()⟩
      (some [.data .stderr [98, 97, 100]]) = some e ∧
        e.outcome.output? = some ([], [98, 97, 100]) := by
    rw [execute_eq_conclude, hdrained]
    exact ⟨_, rfl, rfl⟩
  obtain ⟨e, he, houtput⟩ := hrun
  obtain ⟨hforwarded, -, -⟩ := execute_stderr .default tool ⟨none, 0, .exits 2, .ok ()⟩
    (some [.data .stderr [98, 97, 100]]) rfl rfl e he _ _ houtput
  rw [hdrained] at hforwarded
  exact ⟨e, he, houtput, hforwarded.trans (by decide)⟩

/-- Half a line before a timeout: it is handed over with the outcome, and neither is it forwarded
    nor does the text report have it. -/
theorem execute_hides_half :
    let tool : Command :=
      ⟨"tool", [], by decide, none, none, .captured, true, some (.ofMillis 500)⟩
    ∃ e, execute .default tool ⟨none, 0, .never, .ok ()⟩
        (some [.data .stderr [104, 97, 108, 102], .stall]) = some e ∧
      e.outcome.output? = some ([], [104, 97, 108, 102]) ∧
      "half" ∈ Bytes.allLines [104, 97, 108, 102] ∧
      "half" ∉ Emission.linesFrom .stderr e.emitted ∧
      ¬ [104, 97, 108, 102] <:+: e.outcome.written true .stderr := by
  intro tool
  have hdrained : drained .default tool (some [.data .stderr [104, 97, 108, 102], .stall]) =
      (.timedOut, { ((Drain.start true none []).recorded .stderr [104, 97, 108, 102]).facing
        [.stall] with clock := 500 }) :=
    (Drain.run_data (d := .start true none []) (s := .stderr) rfl (by decide) rfl).trans
      (Drain.run_stall rfl)
  rw [execute_eq_conclude, hdrained]
  refine ⟨_, rfl, rfl, by decide, by decide, ?_⟩
  rw [interrupted, Interruption.error, written_timeout]
  decide +kernel

end Execution

end Outflow
