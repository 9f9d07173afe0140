import Outflow.Proofs.Execution.Outcome
import Outflow.Proofs.Report
import Outflow.Script

/-!
# A script answers as a run does

A script stands in for the children that a caller would run.  It gives each command the outcome
that a run comes to whose child lets out the same octets, in whatever pieces and whatever order,
and exits with the same code (`execute_agrees_script`).  Only a clock tells the two apart, and
nothing that is reported depends on one but the duration itself (`Outcome.Agrees`).
-/

namespace Outflow

namespace Execution

open Schedule

/-- A run without a capture limit and without a timeout, whose streams both come to a good end
    and whose child exits: it has all that the streams let out. -/
theorem untimed_execute_of_exits {config : RunnerConfig} {command : Command} {child : Child}
    {σ : Schedule} {code : Int32} (hlimit : config.captureLimit = none)
    (htimeout : command.timeout = none) (hw : child.waitAnswer = .exits code)
    (hend : ∀ s, endOf s σ = .eof) :
    (execute config command child (some σ)).map (fun x => x.outcome.untimed) =
      some (.ofExit command.args code (outputOf .stdout σ) (outputOf .stderr σ) .zero) := by
  have hdeadline : deadline command = none := by rw [deadline, htimeout, Option.map_none]
  obtain ⟨read, hread⟩ : ∃ read,
      Course config.captureLimit (deadline command) σ .ended read := by
    rw [exists_course_ended_iff, hdeadline, hlimit]
    exact ⟨fun s => ⟨hend s, rfl⟩, rfl⟩
  -- Without a deadline everything is in time.
  have ht : within (deadline command) (span read + child.waitDelay) = true := by
    rw [hdeadline]
    rfl
  have hforetold : ∀ o, Foretold config command child σ o →
      (execute config command child (some σ)).map (fun x => x.outcome.untimed) = o :=
    fun o ho => outcome_of_foretold ho
  by_cases hcode : code = 0
  · subst hcode
    rw [hforetold _ (.succeeded hread hw ht), hlimit]
    rfl
  · rw [hforetold _ (.commandFailed hread hw hcode ht), hlimit, Outcome.ofExit, if_neg hcode]
    rfl

/-- **A script agrees with a run.**  The child lets out some octets of each stream, in any
    division and interleaving, both streams come to a good end, and it exits with a code; the
    expectation that decides the command gives the same octets and the same code, and is not used
    up.  Then the run and the script come to the same outcome, but for the duration. -/
theorem execute_agrees_script (config : RunnerConfig) (command : Command) (child : Child)
    (σ : Schedule) (script : Script) (e : Expectation) (code : Int32) (out err : Bytes)
    (hlimit : config.captureLimit = none) (htimeout : command.timeout = none)
    (hwait : child.waitAnswer = .exits code) (hend : ∀ s, endOf s σ = .eof)
    (hout : outputOf .stdout σ = out) (herr : outputOf .stderr σ = err)
    (hdecides : script.expectations.find? (·.fits command) = some e)
    (hleft : ∀ limit, e.limit = some limit → e.decided < limit)
    (hresponse : e.response = ⟨code, out, err, none⟩) :
    ∃ x, execute config command child (some σ) = some x ∧
      Outcome.Agrees x.outcome (script.run command).1 := by
  obtain ⟨x, hx, hrun⟩ :=
    Option.map_eq_some_iff.1 (untimed_execute_of_exits hlimit htimeout hwait hend)
  refine ⟨x, hx, Outcome.agrees_of_untimed ?_⟩
  have hscript : (script.run command).1 = .ofExit command.args code out err (.ofMillis 10) := by
    have hanswer : (script.run command).1 = e.answer command (e.decided + 1) := by
      rw [Script.run_fst, hdecides]
    rw [hanswer, e.answer_of_le command hleft, hresponse]
    rfl
  rw [hrun, hscript, Outcome.untimed_ofExit, hout, herr]

/-- Two streams interleaved, and an expectation that is good for one more command. -/
theorem execute_agrees_script_interleaved :
    let tool : Command := .plain "tool" ["x"] (by decide)
    let e := [.matcher fun given => given.length = 1, .stdout [97, 98], .stderr [99], .exitCode 3,
      .limit 1].foldl Expectation.add (.start "tool")
    let script := (Script.empty.expect (.start "other")).expect e
    ∃ x, execute .default tool ⟨none, 0, .exits 3, .ok ()⟩ (some [.data .stdout [97],
        .data .stderr [99], .eof .stderr, .delay 5, .data .stdout [98]]) = some x ∧
      Outcome.Agrees x.outcome (script.run tool).1 ∧
      (script.run tool).1 = .error (.commandFailed ["tool", "x"] 3 [97, 98] [99]) := by
  intro tool e script
  obtain ⟨x, hx, hagrees⟩ := execute_agrees_script .default tool ⟨none, 0, .exits 3, .ok ()⟩
    [.data .stdout [97], .data .stderr [99], .eof .stderr, .delay 5, .data .stdout [98]] script e
    3 [97, 98] [99] rfl rfl rfl (fun s => by cases s <;> rfl) rfl rfl rfl
    (fun limit hlimit => Option.some.inj hlimit ▸ Nat.one_pos) rfl
  exact ⟨x, hx, hagrees, rfl⟩

end Execution

end Outflow
