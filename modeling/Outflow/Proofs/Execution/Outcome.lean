import Outflow.Proofs.Drain.Course
import Outflow.Proofs.Execution.Conclusion
import Outflow.Proofs.Report.Status

/-!
# How a run must end

`Foretold` tells the outcome of a run from the schedule of its child, what the child answers to
a wait, and the deadline.  It is what the run comes to, and nothing else is (`execute_foretold`);
and the run is a success exactly if both streams come to good ends, the child exits with code
zero, and all of it is in time.
-/

namespace Outflow

namespace Execution

open Schedule

variable {config : RunnerConfig} {command : Command} {child : Child} {σ : Schedule}
  {schedule : Option Schedule} {ending : DrainEnd} {read : Schedule}

/-! ### What a run must come to -/

/-- What a run must come to, told from the events that are read and from what the child answers
    to a wait; nothing for a run that does not come back.  An output is what the capture limit
    leaves of what a stream has let out.  The time that a success took is left aside. -/
inductive Foretold (config : RunnerConfig) (command : Command) (child : Child) (σ : Schedule) :
    Option Outcome → Prop where
  | readFailed {read : Schedule} {s : Stream} {source : IoError}
    (h : Course config.captureLimit (deadline command) σ (.failed (.read s source)) read) :
    Foretold config command child σ (some (.error (.io command.args source)))
  | overflowed {read : Schedule} {s : Stream} {maxBytes : UInt64}
    (h : Course config.captureLimit (deadline command) σ (.failed (.overflow ⟨s, maxBytes⟩)) read) :
    Foretold config command child σ (some (.error (.captureLimitExceeded command.args s maxBytes)))
  | waitFailed {read : Schedule} {source : IoError}
    (h : Course config.captureLimit (deadline command) σ .ended read)
    (hw : child.waitAnswer = .fails source)
    (ht : within (deadline command) (span read + child.waitDelay) = true) :
    Foretold config command child σ (some (.error (.io command.args source)))
  | succeeded {read : Schedule} (h : Course config.captureLimit (deadline command) σ .ended read)
    (hw : child.waitAnswer = .exits 0)
    (ht : within (deadline command) (span read + child.waitDelay) = true) :
    Foretold config command child σ (some (.ok ⟨command.args, 0,
      CaptureLimit.kept config.captureLimit (outputOf .stdout σ),
      CaptureLimit.kept config.captureLimit (outputOf .stderr σ), .zero⟩))
  | commandFailed {read : Schedule} {code : Int32}
    (h : Course config.captureLimit (deadline command) σ .ended read)
    (hw : child.waitAnswer = .exits code) (hcode : code ≠ 0)
    (ht : within (deadline command) (span read + child.waitDelay) = true) :
    Foretold config command child σ (some (.error (.commandFailed command.args code
      (CaptureLimit.kept config.captureLimit (outputOf .stdout σ))
      (CaptureLimit.kept config.captureLimit (outputOf .stderr σ)))))
  /-- The deadline comes before both streams have ended. -/
  | timedOutReading {read : Schedule} {timeout : Duration}
    (h : Course config.captureLimit (deadline command) σ .timedOut read)
    (hd : command.timeout = some timeout) :
    Foretold config command child σ (some (.error (.timeout command.args timeout
      (CaptureLimit.kept config.captureLimit (outputOf .stdout read))
      (CaptureLimit.kept config.captureLimit (outputOf .stderr read)))))
  /-- The deadline comes before the child answers. -/
  | timedOutWaiting {read : Schedule} {timeout : Duration}
    (h : Course config.captureLimit (deadline command) σ .ended read)
    (hd : command.timeout = some timeout)
    (hw : child.waitAnswer = .never ∨ timeout.ceilMillis < span read + child.waitDelay) :
    Foretold config command child σ (some (.error (.timeout command.args timeout
      (CaptureLimit.kept config.captureLimit (outputOf .stdout σ))
      (CaptureLimit.kept config.captureLimit (outputOf .stderr σ)))))
  | hungReading {read : Schedule}
    (h : Course config.captureLimit (deadline command) σ .hung read) :
    Foretold config command child σ none
  | hungWaiting {read : Schedule} (h : Course config.captureLimit (deadline command) σ .ended read)
    (hd : command.timeout = none) (hw : child.waitAnswer = .never) :
    Foretold config command child σ none

/-! ### What its drain comes to -/

/-- Without streams, the drain of a run is at its end at once. -/
theorem drained_none (config : RunnerConfig) (command : Command) :
    drained config command none =
      (.ended, Drain.idle command.live config.captureLimit) := Drain.run_settled rfl

/-- The course of nothing. -/
theorem course_nil {limit : Option CaptureLimit} {deadline : Option Nat}
    (h : Course limit deadline [] ending read) : ending = .ended ∧ read = [] := by
  generalize hnil : ([] : Schedule) = σ at h
  cases h with
  | ended hp hend ht =>
    obtain ⟨rfl, rfl⟩ := List.append_eq_nil_iff.1 hnil.symm
    exact ⟨rfl, rfl⟩
  | _ => exact absurd hnil.symm (by simp)

/-- The drain of a run takes the course of the schedule. -/
theorem drained_course
    (h : Course config.captureLimit (deadline command) (schedule.getD []) ending read) :
    ∃ d, drained config command schedule = (ending, d) ∧
      ((∀ o, ending ≠ .failed (.overflow o)) → ∀ s, (d.captures.get s).bytes =
        CaptureLimit.kept config.captureLimit (outputOf s read)) ∧
      (ending = .ended → d.clock = span read) := by
  cases schedule with
  | some σ => exact Drain.run_course config.chunkSize.toNat command.live h
  | none =>
    obtain ⟨rfl, rfl⟩ := course_nil h
    refine ⟨_, drained_none config command, fun _ s => ?_, fun _ => rfl⟩
    have hkept : CaptureLimit.kept config.captureLimit [] = [] := by
      unfold CaptureLimit.kept
      split <;> simp
    rw [outputOf, hkept]
    cases s <;> rfl

/-- A drain that comes to its end has all that its streams let out. -/
theorem drained_ended
    (h : Course config.captureLimit (deadline command) (schedule.getD []) .ended read) :
    ∃ d, drained config command schedule = (.ended, d) ∧
      (∀ s, (d.captures.get s).bytes =
        CaptureLimit.kept config.captureLimit (outputOf s (schedule.getD []))) ∧
      d.clock = span read := by
  obtain ⟨d, hd, hbytes, hclock⟩ := drained_course h
  refine ⟨d, hd, fun s => ?_, hclock rfl⟩
  rw [(h.of_ended s).1]
  exact hbytes (by simp) s

/-! ### What the run comes to -/

/-- Some outcome is foretold, whatever the schedule and the child. -/
theorem exists_foretold (config : RunnerConfig) (command : Command) (child : Child)
    (σ : Schedule) : ∃ o, Foretold config command child σ o := by
  obtain ⟨ending, read, h⟩ := exists_course config.captureLimit (deadline command) σ
  cases ending with
  | failed error =>
    cases error with
    | read s source => exact ⟨_, .readFailed h⟩
    | overflow o => exact ⟨_, .overflowed h⟩
  | timedOut =>
    have htimeout : command.timeout ≠ none := by
      intro hnone
      cases h with
      | timedOut hp ho hd ht he => simp [deadline, hnone] at hd
    obtain ⟨timeout, hd⟩ := Option.ne_none_iff_exists'.1 htimeout
    exact ⟨_, .timedOutReading h hd⟩
  | hung => exact ⟨_, .hungReading h⟩
  | ended =>
    by_cases ht : within (deadline command) (span read + child.waitDelay) = true
    · cases hw : child.waitAnswer with
      | exits code =>
        by_cases hcode : code = 0
        · exact ⟨_, .succeeded h (hcode ▸ hw) ht⟩
        · exact ⟨_, .commandFailed h hw hcode ht⟩
      | fails source => exact ⟨_, .waitFailed h hw ht⟩
      | never =>
        cases hd : command.timeout with
        | none => exact ⟨_, .hungWaiting h hd hw⟩
        | some timeout => exact ⟨_, .timedOutWaiting h hd (.inl hw)⟩
    · obtain ⟨time, hd, hlt⟩ := lt_of_not_within ht
      obtain ⟨timeout, htimeout, rfl⟩ := Option.map_eq_some_iff.1 hd
      exact ⟨_, .timedOutWaiting h htimeout (.inr hlt)⟩

/-- What is foretold comes about. -/
theorem outcome_of_foretold {o : Option Outcome}
    (h : Foretold config command child (schedule.getD []) o) :
    (execute config command child schedule).map (fun e => e.outcome.untimed) = o := by
  rw [execute_eq_conclude]
  cases h with
  | readFailed h =>
    obtain ⟨d, hd, -, -⟩ := drained_course h
    rw [hd]
    rfl
  | overflowed h =>
    obtain ⟨d, hd, -, -⟩ := drained_course h
    rw [hd]
    rfl
  | waitFailed h hw ht =>
    obtain ⟨d, hd, -, hclock⟩ := drained_ended h
    rw [← hclock] at ht
    rw [hd, conclude_eq_finish, finish_fails hw ht]
    rfl
  | succeeded h hw ht =>
    obtain ⟨d, hd, hbytes, hclock⟩ := drained_ended h
    rw [← hclock] at ht
    rw [hd, conclude_eq_finish, finish_exits hw ht, ← hbytes, ← hbytes]
    rfl
  | commandFailed h hw hcode ht =>
    obtain ⟨d, hd, hbytes, hclock⟩ := drained_ended h
    rw [← hclock] at ht
    rw [hd, conclude_eq_finish, finish_exits hw ht, ← hbytes, ← hbytes, Option.map_some,
      Finish.execution, exited, Outcome.ofExit, if_neg hcode]
    rfl
  | @timedOutReading read timeout h htimeout =>
    obtain ⟨d, hd, hbytes, -⟩ := drained_course h
    rw [hd, ← hbytes (by simp), ← hbytes (by simp), conclude, interrupted, Interruption.error,
      htimeout]
    rfl
  | @timedOutWaiting read timeout h htimeout hw =>
    obtain ⟨d, hd, hbytes, hclock⟩ := drained_ended h
    have hdeadline : deadline command = some timeout.ceilMillis :=
      congrArg (Option.map Duration.ceilMillis) htimeout
    rw [← hclock] at hw
    rw [hd, ← hbytes, ← hbytes, conclude_eq_finish, hdeadline, finish_late hw, Option.map_some,
      Finish.execution, interrupted, Interruption.error, htimeout]
    rfl
  | hungReading h =>
    obtain ⟨d, hd, -, -⟩ := drained_course h
    rw [hd]
    rfl
  | hungWaiting h htimeout hw =>
    obtain ⟨d, hd, -, -⟩ := drained_course h
    have hdeadline : deadline command = none :=
      congrArg (Option.map Duration.ceilMillis) htimeout
    rw [hd, conclude_eq_finish, hdeadline, finish_never hw]
    rfl

theorem foretold_outcome (config : RunnerConfig) (command : Command) (child : Child)
    (schedule : Option Schedule) :
    Foretold config command child (schedule.getD [])
      ((execute config command child schedule).map fun e => e.outcome.untimed) := by
  obtain ⟨o, ho⟩ := exists_foretold config command child (schedule.getD [])
  rw [outcome_of_foretold ho]
  exact ho

/-- A success is foretold if the streams come to good ends and the child exits with code zero,
    all of it in time. -/
theorem foretold_ok_iff (config : RunnerConfig) (command : Command) (child : Child)
    (σ : Schedule) :
    (∃ done, Foretold config command child σ (some (.ok done))) ↔
      (∀ s, endOf s σ = .eof ∧
        CaptureLimit.refuses config.captureLimit (outputOf s σ).length = false) ∧
      child.waitAnswer = .exits 0 ∧
      within (deadline command) (drainTime σ + child.waitDelay) = true := by
  constructor
  · rintro ⟨done, h⟩
    cases h with
    | @succeeded read h hw ht =>
      rw [h.span_of_ended] at ht
      exact ⟨((exists_course_ended_iff _ _ _).1 ⟨read, h⟩).1, hw, ht⟩
  · rintro ⟨hall, hw, ht⟩
    have hdrain : within (deadline command) (drainTime σ) = true :=
      within_of_le ht (Nat.le_add_right _ _)
    obtain ⟨read, h⟩ := (exists_course_ended_iff _ _ _).2 ⟨hall, hdrain⟩
    rw [← h.span_of_ended] at ht
    exact ⟨_, .succeeded h hw ht⟩

/-- A run has exit status zero if it comes to a success. -/
theorem exitStatus_execute_iff (x : Option Execution) :
    (∃ e, x = some e ∧ e.outcome.exitStatus = 0) ↔
      ∃ done, x.map (fun e => e.outcome.untimed) = some (.ok done) := by
  constructor
  · rintro ⟨e, rfl, he⟩
    obtain ⟨done, hdone⟩ := (Outcome.exitStatus_eq_zero_iff _).1 he
    exact ⟨_, by rw [Option.map_some, hdone]; rfl⟩
  · rintro ⟨done, h⟩
    obtain ⟨e, rfl, he⟩ := Option.map_eq_some_iff.1 h
    refine ⟨e, rfl, (Outcome.exitStatus_eq_zero_iff _).2 ?_⟩
    cases houtcome : e.outcome with
    | ok done => exact ⟨done, rfl⟩
    | error error =>
      rw [houtcome] at he
      contradiction

/-- **A run comes to what is foretold, and to nothing else.** -/
theorem execute_foretold (config : RunnerConfig) (command : Command) (child : Child)
    (schedule : Option Schedule) :
    (∀ o, (execute config command child schedule).map (fun e => e.outcome.untimed) = o ↔
      Foretold config command child (schedule.getD []) o) ∧
    ((∃ e, execute config command child schedule = some e ∧ e.outcome.exitStatus = 0) ↔
      (∀ s, endOf s (schedule.getD []) = .eof ∧ CaptureLimit.refuses config.captureLimit
        (outputOf s (schedule.getD [])).length = false) ∧
      child.waitAnswer = .exits 0 ∧
      within (deadline command) (drainTime (schedule.getD []) + child.waitDelay) = true) := by
  have hforetold : ∀ o, (execute config command child schedule).map (fun e => e.outcome.untimed) =
      o ↔ Foretold config command child (schedule.getD []) o :=
    fun o => ⟨fun h => h ▸ foretold_outcome config command child schedule, outcome_of_foretold⟩
  refine ⟨hforetold, ?_⟩
  rw [exitStatus_execute_iff, ← foretold_ok_iff]
  exact exists_congr fun done => hforetold _

/-- What comes at the very deadline is still read, and the child is in time.  With a millisecond
    less the run times out, after the output that had come by then. -/
theorem execute_foretold_deadline :
    let tail (timeout : Duration) : Command :=
      ⟨"tail", ["-f"], by decide, none, none, .captured, false, some timeout⟩
    let run (timeout : Duration) := (execute .default (tail timeout) ⟨none, 0, .exits 0, .ok ()⟩
      (some [.data .stdout [104, 105, 10], .delay 500, .data .stdout [33]])).map
        (·.outcome.untimed)
    run (.ofMillis 500) = some (.ok ⟨["tail", "-f"], 0, [104, 105, 10, 33], [], .zero⟩) ∧
      run (.ofMillis 499) =
        some (.error (.timeout ["tail", "-f"] (.ofMillis 499) [104, 105, 10] [])) := by
  intro tail run
  let child : Child := ⟨none, 0, .exits 0, .ok ()⟩
  let output : Event := .data .stdout [104, 105, 10]
  let more : Event := .data .stdout [33]
  -- Without a limit, reading goes on after any output.
  have hgoes : ∀ before bytes error, ¬ Stop none before (.data .stdout bytes) error := by
    intro before bytes error h
    cases h
    contradiction
  have hfirst : Passable none [output] :=
    .snoc (s := .stdout) .nil rfl (by simp [output]) (hgoes _ _)
  have hdelay : Passable none [output, .delay 500] :=
    .snoc (s := .stdout) hfirst rfl (by simp) fun error h => nomatch h
  have hall : Passable none [output, .delay 500, more] :=
    .snoc (s := .stdout) hdelay rfl (by simp [more]) (hgoes _ _)
  have hended : Course none (some 500) ([output, .delay 500, more] ++ []) .ended _ :=
    .ended hall (.inr rfl) (by decide)
  have hcut : Course none (some 499) ([output] ++ .delay 500 :: [more]) .timedOut _ :=
    .timedOut (s := .stdout) hfirst rfl rfl (by decide) (.inr (by decide))
  have hlate : Foretold .default (tail (.ofMillis 499)) child _ _ := .timedOutReading hcut rfl
  constructor
  · exact ((execute_foretold .default (tail (.ofMillis 500)) child _).1 _).2
      (.succeeded hended rfl (by decide))
  · exact ((execute_foretold .default (tail (.ofMillis 499)) child (some _)).1 _).2 hlate

end Execution

end Outflow
