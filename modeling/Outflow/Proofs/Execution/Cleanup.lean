import Outflow.Proofs.Drain.Step
import Outflow.Proofs.Execution.Calls

/-!
# A shutdown does not change how a run ends

A run lets out what its drain lets out, and after that at most a word about a shutdown that went
wrong (`emitted_execute`).  That word is all that the answer of a child to a request to shut down
can change: `execute_shutdown`.
-/

namespace Outflow

namespace Emission

/-- The errors that the log tells of. -/
def errors (es : List Emission) : List LogEntry := (logs es).filter (·.level = .error)

@[simp] theorem errors_append (es fs : List Emission) :
    errors (es ++ fs) = errors es ++ errors fs := by
  simp [errors]

end Emission

namespace Execution

variable {config : RunnerConfig} {command : Command} {child : Child} {schedule : Option Schedule}
  {e : Execution}

/-- What the log tells of a shutdown.  There is none unless the run was interrupted. -/
def cleanupNotes (pid : Pid) (outcome : Outcome) : Except CleanupError Unit → List Emission
  | .ok () => []
  | .error e => if outcome.interrupted then [cleanupNote pid e] else []

@[simp] theorem lines_cleanupNotes (pid : Pid) (outcome : Outcome)
    (answer : Except CleanupError Unit) :
    Emission.lines (cleanupNotes pid outcome answer) = [] := by
  unfold cleanupNotes
  split
  · rfl
  · split <;> rfl

/-! ### What a run lets out -/

theorem emitted_interrupted (d : Drain) (calls : List Call) (why : Interruption) :
    (interrupted config command child d calls why).emitted =
      d.emitted ++ cleanupNotes child.pid (interrupted config command child d calls why).outcome
        child.shutdown := by
  have hnotes : ∀ answer,
      cleanupNotes child.pid (interrupted config command child d calls why).outcome answer =
        match answer with | .ok () => [] | .error e => [cleanupNote child.pid e] := by
    intro answer
    cases answer with
    | ok done => rfl
    | error e => exact if_pos (Interruption.interrupted_error command d.captures why)
  exact congrArg (d.emitted ++ ·) (hnotes child.shutdown).symm

theorem emitted_exited (d : Drain) (code : Int32) (time : Nat) :
    (exited command d code time).emitted =
      d.emitted ++ cleanupNotes child.pid (exited command d code time).outcome child.shutdown := by
  have hexited := Outcome.exited_ofExit command.args code d.captures.stdout.bytes
    d.captures.stderr.bytes (.ofMillis time)
  simp only [exited, cleanupNotes, Outcome.interrupted_of_exited hexited]
  cases child.shutdown <;> simp

/-- **A run lets out what its drain does, and then what it has to tell of a shutdown.** -/
theorem emitted_execute (h : execute config command child schedule = some e) :
    e.emitted = (drained config command schedule).2.emitted ++
      cleanupNotes child.pid e.outcome child.shutdown := by
  obtain ⟨f, -, rfl⟩ := exists_finish h
  cases f with
  | exited code time => exact emitted_exited _ code time
  | interrupted calls why time => exact emitted_interrupted _ calls why

/-- The lines that a run forwards are those of its drain. -/
theorem lines_execute (h : execute config command child schedule = some e) :
    Emission.lines e.emitted =
      Emission.lines (drained config command schedule).2.emitted := by
  rw [emitted_execute h, Emission.lines_append, lines_cleanupNotes, List.append_nil]

/-- The log of a drain tells of no errors, whether the streams were taken or not. -/
theorem onlyWarned_drained (config : RunnerConfig) (command : Command)
    (schedule : Option Schedule) : (drained config command schedule).2.OnlyWarned := by
  refine Drain.stable_onlyWarned.run _ _ ?_
  intro entry hentry
  cases schedule <;> contradiction

end Execution

end Outflow
