import Outflow.Proofs.Drain.Deadline
import Outflow.Proofs.Execution.Calls
import Outflow.Proofs.Execution.Cleanup

/-!
# Longer timeouts

A run that does not time out is the same with any longer timeout, and with none.  A run that does
has forwarded the first lines of what it forwards with more time, and captured the first octets
of it (`execute_longer`).
-/

namespace Outflow

namespace Duration

theorem ceilMillis_eq (d : Duration) : d.ceilMillis = (d.toNanos + 999999) / 1000000 := by
  unfold ceilMillis toNanos
  omega

/-- A timer for a longer span does not end before one for a shorter span. -/
theorem ceilMillis_le {d e : Duration} (h : d.toNanos ≤ e.toNanos) :
    d.ceilMillis ≤ e.ceilMillis := by
  rw [ceilMillis_eq, ceilMillis_eq]
  exact Nat.div_le_div_right (Nat.add_le_add_right h 999999)

end Duration

namespace Outcome

/-- The run was not over in time. -/
def timedOut : Outcome → Bool
  | .error (.timeout ..) => true
  | _ => false

/-- The output that comes with an outcome. -/
def output? : Outcome → Option (Bytes × Bytes)
  | .ok done => some (done.stdout, done.stderr)
  | .error e => e.captured?

theorem timedOut_ofExit (args : List String) (code : Int32) (out err : Bytes)
    (duration : Duration) : (ofExit args code out err duration).timedOut = false := by
  unfold ofExit
  split <;> rfl

theorem output?_ofExit (args : List String) (code : Int32) (out err : Bytes)
    (duration : Duration) : (ofExit args code out err duration).output? = some (out, err) := by
  unfold ofExit
  split <;> rfl

end Outcome

namespace Execution

variable {config : RunnerConfig} {command : Command} {child : Child} {schedule : Option Schedule}
  {e : Execution} {limit : Option Nat} {time clock : Nat} {ending : DrainEnd}

/-! ### Finishing later -/

/-- The time is up. -/
def Finish.timedOut : Finish → Bool
  | interrupted _ .timedOut _ => true
  | _ => false

theorem Finish.timedOut_execution (d : Drain) (f : Finish) :
    (f.execution config command child d).outcome.timedOut = f.timedOut := by
  cases f with
  | exited code time => exact Outcome.timedOut_ofExit ..
  | interrupted calls why time =>
    cases why with
    | drain error => cases error <;> rfl
    | wait error => rfl
    | timedOut => rfl

/-- Only a run that has timed out tells of its timeout. -/
theorem Finish.execution_timeout (t : Option Duration) (d : Drain) {f : Finish}
    (h : f.timedOut = false) :
    f.execution config { command with timeout := t } child d =
      f.execution config command child d := by
  cases f with
  | exited code time => rfl
  | interrupted calls why time =>
    cases why with
    | drain error => cases error <;> rfl
    | wait error => rfl
    | timedOut => contradiction

/-- What is in time is in time for any later deadline. -/
theorem finish_later (h : within limit time = true) {f : Finish}
    (hf : finish (some time) child clock ending = some f) (hfinish : f.timedOut = false) :
    finish limit child clock ending = some f := by
  cases ending with
  | failed error => exact hf
  | timedOut => exact hf
  | hung => exact hf
  | ended =>
    by_cases ht : child.waitAnswer = .never ∨ time < clock + child.waitDelay
    · -- The answer is too late, so the time is up.
      rw [finish_late ht, Option.some.injEq] at hf
      subst hf
      contradiction
    · obtain ⟨hanswer, htime⟩ := not_or.1 ht
      have hwithin : within (some time) (clock + child.waitDelay) = true := by
        simpa [within] using htime
      have hlimit : within limit (clock + child.waitDelay) = true :=
        Schedule.within_of_le h (Nat.not_lt.1 htime)
      cases hw : child.waitAnswer with
      | exits code =>
        rw [finish_exits hw hwithin] at hf
        rw [finish_exits hw hlimit, hf]
      | fails error =>
        rw [finish_fails hw hwithin] at hf
        rw [finish_fails hw hlimit, hf]
      | never => contradiction

/-- What takes no time is over before any deadline. -/
theorem timedOut_of_finish_at_once (hdelay : child.waitDelay = 0)
    (hanswer : child.waitAnswer ≠ .never) (hend : ending ≠ .timedOut) {f : Finish}
    (hf : finish limit child 0 ending = some f) : f.timedOut = false := by
  have hwithin : within limit (0 + child.waitDelay) = true := by
    rw [hdelay]
    cases limit <;> simp [within]
  cases ending with
  | failed error =>
    obtain rfl := Option.some.inj hf
    rfl
  | timedOut => contradiction
  | hung => contradiction
  | ended =>
    cases hw : child.waitAnswer with
    | exits code =>
      rw [finish_exits hw hwithin] at hf
      obtain rfl := Option.some.inj hf
      rfl
    | fails error =>
      rw [finish_fails hw hwithin] at hf
      obtain rfl := Option.some.inj hf
      rfl
    | never => contradiction

/-! ### What a run hands over -/

/-- The output that a run hands over is what its drain has captured. -/
theorem output?_execute (h : execute config command child schedule = some e) :
    ∀ p ∈ e.outcome.output?, p = ((drained config command schedule).2.captures.stdout.bytes,
      (drained config command schedule).2.captures.stderr.bytes) := by
  intro p hp
  obtain ⟨f, -, rfl⟩ := exists_finish h
  cases f with
  | exited code time =>
    simpa [Finish.execution, exited, Outcome.output?_ofExit, eq_comm] using hp
  | interrupted calls why time =>
    cases why with
    | drain error => cases error <;> contradiction
    | wait error => contradiction
    | timedOut => exact (Option.some.inj hp).symm

/-! ### Another timeout -/

/-- A run with another timeout, by how its drain ends. -/
theorem execute_timeout (t : Option Duration) :
    let r := (drain config command schedule).run config.chunkSize.toNat (t.map Duration.ceilMillis)
    execute config { command with timeout := t } child schedule =
      (finish (t.map Duration.ceilMillis) child r.2.clock r.1).map
        (Finish.execution config { command with timeout := t } child r.2) :=
  execute_eq_finish config { command with timeout := t } child schedule

/-- A run that has not timed out is the same with a later deadline. -/
theorem execute_of_not_timedOut {t₁ : Duration} {t₂ : Option Duration}
    (hlater : within (t₂.map Duration.ceilMillis) t₁.ceilMillis = true)
    (h : execute config { command with timeout := some t₁ } child schedule = some e)
    (hend : e.outcome.timedOut = false) :
    execute config { command with timeout := t₂ } child schedule = some e := by
  rw [execute_timeout, Option.map_some] at h
  obtain ⟨f, hf, rfl⟩ := Option.map_eq_some_iff.1 h
  rw [Finish.timedOut_execution] at hend
  have hdrain : ((drain config command schedule).run config.chunkSize.toNat
      (some t₁.ceilMillis)).1 ≠ .timedOut := by
    -- Otherwise the run would have been interrupted for that.
    intro hdrain
    rw [hdrain] at hf
    obtain rfl := Option.some.inj hf
    contradiction
  rw [execute_timeout, Drain.run_of_not_timedOut hlater hdrain, finish_later hlater hf hend,
    Option.map_some, Finish.execution_timeout t₂ _ hend, Finish.execution_timeout (some t₁) _ hend]

/-- What a run lets out and captures is the beginning of what it does with a later deadline. -/
theorem execute_begins {t₁ : Duration} {t₂ : Option Duration} {e₁ e₂ : Execution}
    (hlater : within (t₂.map Duration.ceilMillis) t₁.ceilMillis = true)
    (h₁ : execute config { command with timeout := some t₁ } child schedule = some e₁)
    (h₂ : execute config { command with timeout := t₂ } child schedule = some e₂) :
    Emission.lines e₁.emitted <+: Emission.lines e₂.emitted ∧
    (config.captureLimit = none → ∀ p₁ ∈ e₁.outcome.output?, ∀ p₂ ∈ e₂.outcome.output?,
      p₁.1 <+: p₂.1 ∧ p₁.2 <+: p₂.2) := by
  refine ⟨?_, fun hlimit p₁ hp₁ p₂ hp₂ => ?_⟩
  · rw [lines_execute h₁, lines_execute h₂]
    exact (Drain.emitted_prefix_later config.chunkSize.toNat (drain config command schedule)
      hlater).filterMap _
  · have hunlimited : ∀ s, ((drain config command schedule).captures.get s).limit = none := by
      intro s
      rw [← hlimit]
      cases schedule <;> cases s <;> rfl
    have hbytes := Drain.bytes_prefix_later config.chunkSize.toNat hlater hunlimited
    rw [output?_execute h₁ p₁ hp₁, output?_execute h₂ p₂ hp₂]
    exact ⟨hbytes .stdout, hbytes .stderr⟩

/-- A run in which nothing takes time does not time out. -/
theorem not_timedOut_of_immediate {t : Duration}
    (h : execute config { command with timeout := some t } child schedule = some e)
    (hσ : ∀ e ∈ schedule.getD [], e.stream? ≠ none) (hdelay : child.waitDelay = 0)
    (hanswer : child.waitAnswer ≠ .never) : e.outcome.timedOut = false := by
  have himmediate : (drain config command schedule).Immediate := by
    cases schedule with
    | none =>
      intro e he
      contradiction
    | some σ => exact hσ
  have hstart : (drain config command schedule).clock = 0 := by cases schedule <;> rfl
  -- Its drain is the one without a deadline, and is over at once.
  obtain ⟨hnone, hclock⟩ :=
    Drain.run_immediate config.chunkSize.toNat (some t.ceilMillis) himmediate
  have hend := Drain.ne_timedOut_of_run_none config.chunkSize.toNat (drain config command schedule)
  rw [hnone] at hend
  rw [execute_timeout, Option.map_some, hclock, hstart] at h
  obtain ⟨f, hf, rfl⟩ := Option.map_eq_some_iff.1 h
  rw [Finish.timedOut_execution]
  exact timedOut_of_finish_at_once hdelay hanswer hend hf

/-- **What a longer timeout changes.**  A run with a timeout comes back.  If it has not timed out
    it is the same run with any later timeout, or with none; and what it has forwarded, and
    captured if there is no limit, is the beginning of what that run forwards and hands over.
    Where nothing takes time, no timeout changes anything. -/
theorem execute_longer (config : RunnerConfig) (command : Command) (child : Child)
    (schedule : Option Schedule) (t₁ : Duration) (t₂ : Option Duration)
    (h : ∀ t ∈ t₂, t₁.toNanos ≤ t.toNanos) :
    let run t := execute config { command with timeout := t } child schedule
    (∃ e₁, run (some t₁) = some e₁ ∧
      (e₁.outcome.timedOut = false → run t₂ = some e₁) ∧
      ∀ e₂ ∈ run t₂, Emission.lines e₁.emitted <+: Emission.lines e₂.emitted ∧
        (config.captureLimit = none → ∀ p₁ ∈ e₁.outcome.output?, ∀ p₂ ∈ e₂.outcome.output?,
          p₁.1 <+: p₂.1 ∧ p₁.2 <+: p₂.2)) ∧
    ((∀ e ∈ schedule.getD [], e.stream? ≠ none) → child.waitDelay = 0 →
      child.waitAnswer ≠ .never → ∀ t, run t = run none) := by
  intro run
  have hback : ∀ t : Duration, ∃ e, run (some t) = some e := by
    intro t
    refine Option.ne_none_iff_exists'.1 fun hnone => ?_
    have htimeout := ((execute_eq_none_iff _ _ _ _).1 hnone).1
    contradiction
  refine ⟨?_, fun hσ hdelay hanswer t => ?_⟩
  · have hlater : within (t₂.map Duration.ceilMillis) t₁.ceilMillis = true := by
      cases t₂ with
      | none => rfl
      | some t =>
        simp only [Option.map_some, within, decide_eq_true_eq]
        exact Duration.ceilMillis_le (h t rfl)
    obtain ⟨e₁, he₁⟩ := hback t₁
    exact ⟨e₁, he₁, execute_of_not_timedOut hlater he₁, fun e₂ he₂ => execute_begins hlater he₁ he₂⟩
  · cases t with
    | none => rfl
    | some t =>
      obtain ⟨e, he⟩ := hback t
      rw [he]
      exact (execute_of_not_timedOut rfl he (not_timedOut_of_immediate he hσ hdelay hanswer)).symm

/-- A tenth of a second and a second, with output before and after the former. -/
theorem execute_longer_second :
    let tail : Command := ⟨"tail", ["-f"], by decide, none, none, .captured, true, none⟩
    let run t := execute .default { tail with timeout := some t } ⟨none, 0, .exits 0, .ok ()⟩
      (some [.data .stdout [104, 105, 10], .delay 500, .data .stdout [33, 10]])
    (Duration.ofMillis 100).toNanos ≤ (Duration.ofSecs 1).toNanos ∧
    ∃ e₁ e₂, run (.ofMillis 100) = some e₁ ∧ run (.ofSecs 1) = some e₂ ∧
      Emission.lines e₁.emitted <+: Emission.lines e₂.emitted := by
  intro tail run
  have hlonger : (Duration.ofMillis 100).toNanos ≤ (Duration.ofSecs 1).toNanos := by decide
  obtain ⟨⟨e₁, he₁, -, hbegins⟩, -⟩ := execute_longer .default tail ⟨none, 0, .exits 0, .ok ()⟩
    (some [.data .stdout [104, 105, 10], .delay 500, .data .stdout [33, 10]]) (.ofMillis 100)
    (some (.ofSecs 1)) (fun t ht => by obtain rfl := Option.some.inj ht; exact hlonger)
  have hback : run (.ofSecs 1) ≠ none := by
    intro hnone
    have htimeout := ((execute_eq_none_iff _ _ _ _).1 hnone).1
    contradiction
  obtain ⟨e₂, he₂⟩ := Option.ne_none_iff_exists'.1 hback
  exact ⟨hlonger, e₁, e₂, he₁, he₂, (hbegins e₂ he₂).1⟩

end Execution

end Outflow
