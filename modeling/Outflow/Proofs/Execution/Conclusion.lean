import Outflow.Execution
import Outflow.Proofs.Drain.Event

/-!
# What follows a drain

`execute` drains the streams of a child and then draws a conclusion from how that went:
`execute_eq_conclude`.  Which one it draws depends on nothing that the drain has captured or let
out (`conclude_eq_finish`), which is what comparisons of two runs rest on.

`Conclusion` lists everything that the conclusion can be, with the conditions under which it is
drawn, so that proofs about runs go by cases on it (`execute_conclusion`) and not on the
definitions of `execute` and `await`.
-/

namespace Outflow

namespace Execution

variable (config : RunnerConfig) (command : Command) (child : Child)

/-- The time at which a command times out. -/
def deadline (command : Command) : Option Nat := command.timeout.map Duration.ceilMillis

/-- The drain of a child that has just been started. -/
def drain (schedule : Option Schedule) : Drain :=
  match schedule with
  | some events => Drain.start command.live config.captureLimit events
  | none => Drain.idle command.live config.captureLimit

/-- What draining the streams of a child comes to. -/
def drained (schedule : Option Schedule) : DrainEnd × Drain :=
  (drain config command schedule).run config.chunkSize.toNat (deadline command)

/-- The run that follows a drain. -/
def conclude : DrainEnd × Drain → Option Execution
  | (.ended, d) => await config command child (deadline command) d
  | (.failed error, d) => some (interrupted config command child d [] (.drain error))
  | (.timedOut, d) => some (interrupted config command child d [] .timedOut)
  | (.hung, _) => none

theorem execute_eq_conclude (schedule : Option Schedule) :
    execute config command child schedule =
      conclude config command child (drained config command schedule) := rfl

/-! ### Which conclusion is drawn -/

/-- A conclusion, apart from what the drain has captured and let out. -/
inductive Finish where
  | exited (code : Int32) (time : Nat)
  | interrupted (calls : List Call) (why : Interruption) (time : Nat)

/-- The run that finishes so. -/
def Finish.execution (d : Drain) : Finish → Execution
  | exited code time => Execution.exited command d code time
  | interrupted calls why time =>
    Execution.interrupted config command child { d with clock := time } calls why

/-- How a run finishes depends on how its drain ended and when, on the child, and on the
    deadline. -/
def finish (deadline : Option Nat) (child : Child) (clock : Nat) : DrainEnd → Option Finish
  | .failed error => some (.interrupted [] (.drain error) clock)
  | .timedOut => some (.interrupted [] .timedOut clock)
  | .hung => none
  | .ended =>
    let time := clock + child.waitDelay
    match child.waitAnswer with
    | .exits code =>
      if within deadline time then some (.exited code time)
      else some (.interrupted [.wait] .timedOut (deadline.getD time))
    | .fails error =>
      if within deadline time then some (.interrupted [.wait] (.wait error) time)
      else some (.interrupted [.wait] .timedOut (deadline.getD time))
    | .never => deadline.map (.interrupted [.wait] .timedOut)

theorem conclude_eq_finish (ending : DrainEnd) (d : Drain) :
    conclude config command child (ending, d) =
      (finish (deadline command) child d.clock ending).map
        (Finish.execution config command child d) := by
  cases ending with
  | ended =>
    simp only [conclude, await, finish]
    cases child.waitAnswer with
    | exits code =>
      by_cases ht : within (deadline command) (d.clock + child.waitDelay) = true <;>
        simp [ht, Finish.execution]
    | fails error =>
      by_cases ht : within (deadline command) (d.clock + child.waitDelay) = true <;>
        simp [ht, Finish.execution]
    | never => cases deadline command <;> rfl
  | failed error => rfl
  | timedOut => rfl
  | hung => rfl

/-- **A run finishes as its drain and its child let it.** -/
theorem execute_eq_finish (schedule : Option Schedule) :
    execute config command child schedule =
      (finish (deadline command) child (drained config command schedule).2.clock
        (drained config command schedule).1).map
          (Finish.execution config command child (drained config command schedule).2) :=
  conclude_eq_finish config command child _ _

section

variable {config command child} {schedule : Option Schedule} {e : Execution}
  {limit : Option Nat} {clock : Nat}

/-- A run that comes back has finished in one of the ways. -/
theorem exists_finish (h : execute config command child schedule = some e) :
    ∃ f, finish (deadline command) child (drained config command schedule).2.clock
        (drained config command schedule).1 = some f ∧
      Finish.execution config command child (drained config command schedule).2 f = e := by
  rw [execute_eq_finish] at h
  exact Option.map_eq_some_iff.1 h

theorem finish_exits {code : Int32} (hw : child.waitAnswer = .exits code)
    (ht : within limit (clock + child.waitDelay) = true) :
    finish limit child clock .ended = some (.exited code (clock + child.waitDelay)) := by
  simp only [finish, hw, ht, if_true]

theorem finish_fails {error : IoError} (hw : child.waitAnswer = .fails error)
    (ht : within limit (clock + child.waitDelay) = true) :
    finish limit child clock .ended =
      some (.interrupted [.wait] (.wait error) (clock + child.waitDelay)) := by
  simp only [finish, hw, ht, if_true]

/-- An answer that is too late is one that never comes. -/
theorem finish_late {time : Nat}
    (hw : child.waitAnswer = .never ∨ time < clock + child.waitDelay) :
    finish (some time) child clock .ended = some (.interrupted [.wait] .timedOut time) := by
  have hlate : child.waitAnswer ≠ .never →
      within (some time) (clock + child.waitDelay) = false := by
    intro hanswer
    simpa [within] using hw.resolve_left hanswer
  unfold finish
  cases hanswer : child.waitAnswer with
  | exits code => simp [hlate (by simp [hanswer])]
  | fails error => simp [hlate (by simp [hanswer])]
  | never => rfl

theorem finish_never (hw : child.waitAnswer = .never) : finish none child clock .ended = none := by
  simp only [finish, hw, Option.map_none]

end

/-- Draining the streams of a child hangs only without a timeout. -/
theorem timeout_of_drained_hung {schedule : Option Schedule}
    (h : (drained config command schedule).1 = .hung) : command.timeout = none := by
  have hdeadline : deadline command = none := by
    rw [drained, ← Drain.facing_pending (drain config command schedule)] at h
    exact Drain.deadline_of_run_hung h
  exact Option.map_eq_none_iff.1 hdeadline

/-- What can follow a drain. -/
inductive Conclusion : DrainEnd × Drain → Option Execution → Prop where
  | exited (d : Drain) (code : Int32) (hw : child.waitAnswer = .exits code)
    (ht : within (deadline command) (d.clock + child.waitDelay) = true) :
    Conclusion (.ended, d) (some (exited command d code (d.clock + child.waitDelay)))
  | waitFailed (d : Drain) (error : IoError) (hw : child.waitAnswer = .fails error)
    (ht : within (deadline command) (d.clock + child.waitDelay) = true) :
    Conclusion (.ended, d) (some (interrupted config command child
      { d with clock := d.clock + child.waitDelay } [.wait] (.wait error)))
  /-- The deadline comes before the answer. -/
  | waitExpired (d : Drain) (limit : Nat) (hd : deadline command = some limit)
    (hw : child.waitAnswer = .never ∨ limit < d.clock + child.waitDelay) :
    Conclusion (.ended, d) (some (interrupted config command child
      { d with clock := limit } [.wait] .timedOut))
  | waitHung (d : Drain) (hd : deadline command = none) (hw : child.waitAnswer = .never) :
    Conclusion (.ended, d) none
  | failed (d : Drain) (error : DrainError) :
    Conclusion (.failed error, d) (some (interrupted config command child d [] (.drain error)))
  | timedOut (d : Drain) :
    Conclusion (.timedOut, d) (some (interrupted config command child d [] .timedOut))
  | hung (d : Drain) : Conclusion (.hung, d) none

theorem lt_of_not_within {limit : Option Nat} {time : Nat} (h : ¬ within limit time = true) :
    ∃ t, limit = some t ∧ t < time := by
  cases limit with
  | none => exact absurd rfl h
  | some t => exact ⟨t, rfl, by simpa [within] using h⟩

/-- The conclusion after both streams have ended. -/
theorem conclusion_ended (d : Drain) :
    Conclusion config command child (.ended, d) (conclude config command child (.ended, d)) := by
  rw [conclude_eq_finish]
  by_cases ht : within (deadline command) (d.clock + child.waitDelay) = true
  · cases hw : child.waitAnswer with
    | exits code =>
      rw [finish_exits hw ht]
      exact .exited d code hw ht
    | fails error =>
      rw [finish_fails hw ht]
      exact .waitFailed d error hw ht
    | never =>
      cases hd : deadline command with
      | none =>
        rw [finish_never hw]
        exact .waitHung d hd hw
      | some time =>
        rw [finish_late (.inl hw)]
        exact .waitExpired d time hd (.inl hw)
  · obtain ⟨time, hd, hlt⟩ := lt_of_not_within ht
    rw [hd, finish_late (.inr hlt)]
    exact .waitExpired d time hd (.inr hlt)

/-- **Every run is one of the listed conclusions of its drain.** -/
theorem execute_conclusion (schedule : Option Schedule) :
    Conclusion config command child (drained config command schedule)
      (execute config command child schedule) := by
  rw [execute_eq_conclude]
  obtain ⟨ending, d⟩ := drained config command schedule
  cases ending with
  | ended => exact conclusion_ended config command child d
  | failed error => exact .failed d error
  | timedOut => exact .timedOut d
  | hung => exact .hung d

end Execution

end Outflow
