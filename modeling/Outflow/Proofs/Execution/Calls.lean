import Outflow.Proofs.Drain.Product
import Outflow.Proofs.Execution.Conclusion

/-!
# What a run asks of its child

A child is waited for once its streams have ended, and it is shut down exactly if the run was
interrupted before its exit code was known (`execute_calls`).
-/

namespace Outflow

/-- The outcome is that of a run that was interrupted. -/
def Outcome.interrupted : Outcome → Bool
  | .error (.io ..) => true
  | .error (.timeout ..) => true
  | .error (.captureLimitExceeded ..) => true
  | _ => false

/-- The outcome is that of a child that exited with a code: success if it is zero. -/
def Outcome.Exited (code : Int32) : Outcome → Prop
  | .ok done => done.exitCode = code ∧ code = 0
  | .error (.commandFailed _ exitCode _ _) => exitCode = code ∧ code ≠ 0
  | .error _ => False

/-- The call is a request to shut down. -/
def Call.isShutdown : Call → Bool
  | .wait => false
  | .shutdown _ => true

theorem Outcome.exited_ofExit (args : List String) (code : Int32) (out err : Bytes)
    (duration : Duration) : Outcome.Exited code (.ofExit args code out err duration) := by
  unfold Outcome.ofExit
  split
  · exact ⟨rfl, ‹_›⟩
  · exact ⟨rfl, ‹_›⟩

/-- A child that exited did not interrupt its run. -/
theorem Outcome.interrupted_of_exited {outcome : Outcome} {code : Int32}
    (h : outcome.Exited code) : outcome.interrupted = false := by
  rcases outcome with (_ | _ | _ | _ | _ | _ | _) | done
  all_goals first | rfl | exact h.elim

/-- An interruption is an error of an interrupted run. -/
theorem Interruption.interrupted_error (command : Command) (captures : Stream.Pair Capture)
    (why : Interruption) : Outcome.interrupted (.error (why.error command captures)) = true := by
  rcases why with (_ | _) | _ | _ <;> rfl

namespace Execution

/-- What may be asked of a child whose streams came to this end, by the outcome of the run. -/
structure Protocol (grace : Duration) (child : Child) (ending : DrainEnd) (e : Execution) :
    Prop where
  calls : e.calls = [.wait] ∨ e.calls = [.wait, .shutdown grace] ∨ e.calls = [.shutdown grace]
  /-- It is waited for once, if both streams have ended, and not otherwise. -/
  wait : e.calls.count .wait = if ending = .ended then 1 else 0
  /-- It is shut down once, if the run was interrupted, and not otherwise. -/
  shutdown : e.calls.countP Call.isShutdown = if e.outcome.interrupted then 1 else 0
  /-- It is only waited for exactly if it exits and the outcome says so. -/
  exited : e.calls = [.wait] ↔ ∃ code, child.waitAnswer = .exits code ∧ e.outcome.Exited code

variable {config : RunnerConfig} {command : Command} {child : Child}

theorem protocol_exited (d : Drain) {code : Int32} (time : Nat)
    (hw : child.waitAnswer = .exits code) :
    Protocol config.gracePeriod child .ended (exited command d code time) := by
  have hexited := Outcome.exited_ofExit command.args code d.captures.stdout.bytes
    d.captures.stderr.bytes (.ofMillis time)
  refine ⟨.inl rfl, rfl, ?_, fun _ => ⟨code, hw, hexited⟩, fun _ => rfl⟩
  rw [exited, Outcome.interrupted_of_exited hexited]
  rfl

theorem protocol_interrupted (d : Drain) (ending : DrainEnd) (why : Interruption) :
    Protocol config.gracePeriod child ending
      (interrupted config command child d (if ending = .ended then [.wait] else []) why) := by
  have hinterrupted := Interruption.interrupted_error command d.captures why
  -- So its outcome is not that of a child that exited.
  have hexited : ∀ code, ¬ Outcome.Exited code (.error (why.error command d.captures)) := by
    intro code h
    rw [Outcome.interrupted_of_exited h] at hinterrupted
    contradiction
  by_cases hended : ending = .ended
  all_goals
    simp only [interrupted, hended, if_true, if_false]
    refine ⟨by simp, by simp [hended], by simp [hinterrupted, Call.isShutdown], by simp, ?_⟩
    rintro ⟨code, -, h⟩
    exact absurd h (hexited code)

/-- A run does not come back if nothing ends its drain or the wait for its child. -/
theorem execute_eq_none_iff (config : RunnerConfig) (command : Command) (child : Child)
    (schedule : Option Schedule) :
    execute config command child schedule = none ↔
      command.timeout = none ∧ ((drained config command schedule).1 = .hung ∨
        (drained config command schedule).1 = .ended ∧ child.waitAnswer = .never) := by
  have hhung := @timeout_of_drained_hung config command schedule
  have hconclusion := execute_conclusion config command child schedule
  generalize drained config command schedule = r at hhung hconclusion ⊢
  generalize execute config command child schedule = x at hconclusion ⊢
  cases hconclusion with
  | waitHung d hd hw => simp [Option.map_eq_none_iff.1 hd, hw]
  | hung d => simp [hhung rfl]
  | exited d code hw ht => simp [hw]
  | waitFailed d error hw ht => simp [hw]
  | waitExpired d limit hd hw =>
    have htimeout : command.timeout ≠ none := by
      intro hnone
      rw [deadline, hnone] at hd
      contradiction
    simp [htimeout]
  | failed d error => simp
  | timedOut d => simp

/-- A run that comes back keeps to the protocol. -/
theorem protocol_of_execute {schedule : Option Schedule} {e : Execution}
    (h : execute config command child schedule = some e) :
    Protocol config.gracePeriod child (drained config command schedule).1 e := by
  have hconclusion := execute_conclusion config command child schedule
  rw [h] at hconclusion
  generalize drained config command schedule = r at hconclusion ⊢
  cases hconclusion with
  | exited d code hw ht => exact protocol_exited d _ hw
  | waitFailed d error hw ht => exact protocol_interrupted _ .ended _
  | waitExpired d limit hd hw => exact protocol_interrupted _ .ended _
  | failed d error => exact protocol_interrupted d (.failed error) _
  | timedOut d => exact protocol_interrupted d .timedOut _

/-- **What a run asks of its child.**  It comes back unless there is no timeout and the child
    keeps its streams or itself open for ever.  When it comes back, the child was waited for,
    shut down after the grace period, or first one and then the other: it was waited for
    only after both streams, if there are any, were read to their ends; it was shut down
    exactly if the run was interrupted, and only waited for exactly if it exited with a
    code that the outcome reports. -/
theorem execute_calls (config : RunnerConfig) (command : Command) (child : Child)
    (schedule : Option Schedule) :
    (execute config command child schedule = none ↔
      command.timeout = none ∧ ((drained config command schedule).1 = .hung ∨
        (drained config command schedule).1 = .ended ∧ child.waitAnswer = .never)) ∧
    ∀ e, execute config command child schedule = some e →
      Protocol config.gracePeriod child (drained config command schedule).1 e ∧
      (.wait ∈ e.calls → ∀ σ s, schedule = some σ → σ.endOf s = .eof) := by
  refine ⟨execute_eq_none_iff config command child schedule, fun e he => ?_⟩
  have hprotocol := protocol_of_execute he
  refine ⟨hprotocol, fun hwait σ s hschedule => ?_⟩
  subst hschedule
  -- It was waited for, so the drain came to its end.
  have hended : (drained config command (some σ)).1 = .ended := by
    by_contra hnot
    rw [← List.count_pos_iff, hprotocol.wait, if_neg hnot] at hwait
    contradiction
  exact (Drain.ends_of_run_ended hended s).1

/-- A child that shows no sign of life until the timeout is shut down and not waited for. -/
theorem execute_calls_stalled :
    let sleep : Command :=
      ⟨"sleep", ["60"], by decide, none, none, .captured, false, some (.ofSecs 1)⟩
    let child : Child := ⟨none, 0, .never, .ok ()⟩
    ∃ e, execute .default sleep child (some [.stall]) = some e ∧
      e.calls = [.shutdown (.ofSecs 1)] := by
  intro sleep child
  obtain ⟨hnone, hsome⟩ := execute_calls .default sleep child (some [.stall])
  have hback : execute .default sleep child (some [.stall]) ≠ none := by
    intro h
    have htimeout := (hnone.1 h).1
    contradiction
  obtain ⟨e, he⟩ := Option.ne_none_iff_exists'.1 hback
  obtain ⟨hprotocol, hstreams⟩ := hsome e he
  have hwait : Call.wait ∉ e.calls := by
    intro hwait
    have hend := hstreams hwait [.stall] .stdout rfl
    contradiction
  obtain h | h | h := hprotocol.calls
  · simp [h] at hwait
  · simp [h] at hwait
  · exact ⟨e, he, h⟩

end Execution

end Outflow
