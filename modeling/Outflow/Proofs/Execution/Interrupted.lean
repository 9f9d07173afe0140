import Outflow.Proofs.Drain.Reached
import Outflow.Proofs.Execution.Timeout

/-!
# What an interrupted run shows

However far a run has come, it has captured exactly what it has read of each stream, and has
forwarded exactly the lines of it that are complete (`Drain.Exact`).  So a run that is cut short
shows no line that is not one, and keeps back none that is (`execute_exact`).
-/

namespace Outflow

namespace Emission

/-- The lines of one stream are among the lines of both. -/
theorem linesFrom_eq_filterMap (s : Stream) (es : List Emission) :
    linesFrom s es = (lines es).filterMap fun l => if l.1 = s then some l.2 else none := by
  rw [linesFrom, lines, List.filterMap_filterMap]
  congr 1
  funext e
  cases e <;> rfl

end Emission

namespace Execution

open Drain Schedule

variable {config : RunnerConfig} {command : Command} {child : Child} {schedule : Option Schedule}
  {e : Execution}

/-! ### The beginning of a run -/

theorem holds_drain (config : RunnerConfig) (command : Command) (schedule : Option Schedule) :
    Holds command.live config.captureLimit [] (drain config command schedule) := by
  cases schedule with
  | some σ => exact holds_start command.live config.captureLimit σ
  | none => exact holds_idle command.live config.captureLimit

theorem toCome_drain (config : RunnerConfig) (command : Command) (schedule : Option Schedule)
    (s : Stream) : (drain config command schedule).toCome s = outputOf s (schedule.getD []) := by
  cases schedule <;> cases s <;> rfl

/-- The lines of one stream that a run forwards are those of its drain. -/
theorem linesFrom_execute (h : execute config command child schedule = some e) (s : Stream) :
    Emission.linesFrom s e.emitted =
      Emission.linesFrom s (drained config command schedule).2.emitted := by
  rw [Emission.linesFrom_eq_filterMap, Emission.linesFrom_eq_filterMap, lines_execute h]

/-- A run stops in a state that its drain has reached. -/
theorem exists_drained_stops (config : RunnerConfig) (command : Command)
    (schedule : Option Schedule) :
    ∃ reads last, Reached config.chunkSize.toNat (drain config command schedule) reads last ∧
      Stops config.chunkSize.toNat config.captureLimit reads last
        (drained config command schedule).1 (drained config command schedule).2 :=
  exists_stops config.chunkSize.toNat (deadline command) (holds_drain config command schedule)

/-- With lines forwarded, every state that the drain of a run reaches is exact. -/
theorem exact_of_reached (hlive : command.live = true) {reads : Chunks} {d : Drain}
    (h : Reached config.chunkSize.toNat (drain config command schedule) reads d) :
    Exact config.captureLimit (schedule.getD []) reads d :=
  h.toExact (hlive ▸ holds_drain config command schedule) fun s =>
    (toCome_drain config command schedule s).symm

/-! ### The end of a run -/

section

variable {reads : Chunks} {last : Drain}
  (hreached : Reached config.chunkSize.toNat (drain config command schedule) reads last)
  (hstops : Stops config.chunkSize.toNat config.captureLimit reads last
    (drained config command schedule).1 (drained config command schedule).2)
  (hlive : command.live = true) (he : execute config command child schedule = some e)

include hreached hstops hlive he

/-- The lines that a run forwards are those of what its drain has read. -/
theorem linesFrom_of_stops (s : Stream) :
    Emission.linesFrom s e.emitted =
      if last.opened.get s then (reads.octetsOf s).completeLines
      else (reads.octetsOf s).allLines := by
  rw [linesFrom_execute he, hstops.emitted]
  exact (exact_of_reached hlive hreached).lines s

/-- The output that a run hands over is what the limit leaves of what its drain has read. -/
theorem output?_of_stops {out err : Bytes} (hp : e.outcome.output? = some (out, err)) :
    out = CaptureLimit.kept config.captureLimit (reads.octetsOf .stdout) ∧
      err = CaptureLimit.kept config.captureLimit (reads.octetsOf .stderr) := by
  have hexact := exact_of_reached hlive hreached
  have hcaptured := output?_execute he _ hp
  rw [hstops.captures] at hcaptured
  exact ⟨(congrArg Prod.fst hcaptured).trans (hexact.bytes .stdout),
    (congrArg Prod.snd hcaptured).trans (hexact.bytes .stderr)⟩

end

/-- **A run shows exactly what it has read, wherever it is cut.**  In every state that its drain
    comes to, and so in the last one, the captures hold exactly what was read of each stream; of
    an open stream the lines before the last newline have been forwarded, and what follows it is
    held back.  A read that fails is of the stream that the error names and adds nothing.  What
    the run then forwards and hands over is what its drain had forwarded and captured. -/
theorem execute_exact (config : RunnerConfig) (command : Command) (child : Child)
    (schedule : Option Schedule) (hlive : command.live = true) :
    let n := config.chunkSize.toNat
    let limit := config.captureLimit
    let r := drained config command schedule
    (∀ reads d, Reached n (drain config command schedule) reads d →
      Exact limit (schedule.getD []) reads d) ∧
    ∃ reads last, Reached n (drain config command schedule) reads last ∧
      Stops n limit reads last r.1 r.2 ∧
      ∀ e, execute config command child schedule = some e →
        (∀ s, Emission.linesFrom s e.emitted =
          if last.opened.get s then (reads.octetsOf s).completeLines
          else (reads.octetsOf s).allLines) ∧
        ∀ p ∈ e.outcome.output?, p = (CaptureLimit.kept limit (reads.octetsOf .stdout),
          CaptureLimit.kept limit (reads.octetsOf .stderr)) := by
  intro n limit r
  refine ⟨fun reads d h => exact_of_reached hlive h, ?_⟩
  obtain ⟨reads, last, hreached, hstops⟩ := exists_drained_stops config command schedule
  refine ⟨reads, last, hreached, hstops, fun e he => ⟨fun s => ?_, fun p hp => ?_⟩⟩
  · exact linesFrom_of_stops hreached hstops hlive he s
  · obtain ⟨hout, herr⟩ := output?_of_stops hreached hstops hlive he hp
    exact Prod.ext hout herr

/-- A line and a half before a timeout: the line is forwarded, and the half is not. -/
theorem execute_exact_half :
    let printf : Command :=
      ⟨"printf", ["a\\nb"], by decide, none, none, .captured, true, some (.ofSecs 1)⟩
    printf.live = true ∧
      ∃ e, execute .default printf ⟨none, 0, .never, .ok ()⟩
          (some [.data .stdout [97, 10, 98], .stall]) = some e ∧
        e.outcome.output? = some ([97, 10, 98], []) ∧
        Emission.linesFrom .stdout e.emitted = ["a"] := by
  intro printf
  refine ⟨rfl, ?_⟩
  have hdrained : drained .default printf (some [.data .stdout [97, 10, 98], .stall]) =
      (.timedOut, { ((Drain.start true none []).recorded .stdout [97, 10, 98]).facing [.stall] with
        clock := 1000 }) :=
    (run_data (d := .start true none []) (s := .stdout) rfl (by decide) rfl).trans (run_stall rfl)
  have hrun : ∃ e, execute .default printf ⟨none, 0, .never, .ok ()⟩
      (some [.data .stdout [97, 10, 98], .stall]) = some e ∧
        e.outcome.output? = some ([97, 10, 98], []) := by
    rw [execute_eq_conclude, hdrained]
    exact ⟨_, rfl, rfl⟩
  obtain ⟨e, he, houtput⟩ := hrun
  obtain ⟨-, reads, last, -, hstops, hend⟩ := execute_exact .default printf
    ⟨none, 0, .never, .ok ()⟩ (some [.data .stdout [97, 10, 98], .stall]) rfl
  obtain ⟨hlines, hoctets⟩ := hend e he
  have hopen : last.opened.get .stdout = true := by
    rw [← hstops.opened, hdrained]
    rfl
  -- Without a limit the octets read are the ones handed over.
  have hread : [97, 10, 98] = reads.octetsOf .stdout :=
    congrArg Prod.fst (hoctets _ houtput)
  refine ⟨e, he, houtput, ?_⟩
  rw [hlines, if_pos hopen, ← hread]
  decide

end Execution

end Outflow
