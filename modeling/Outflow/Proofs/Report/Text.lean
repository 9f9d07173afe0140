import Outflow.Proofs.Report
import Outflow.Proofs.Text.Bytes

/-!
# The text report

Writers with little room receive the beginning of what writers without bounds receive: all of
stdout comes before stderr, so that stderr gets nothing of a report whose stdout does not fit
(`writeText_bounded`).

Once the lines of stderr have been logged, a report does not depend on the stderr that an outcome
carries, unless a command failed.  Of a failed command the last lines are shown all the same, which
is the only part that depends on them (`writeText_logged`, `writeText_repeats_stderr`).
-/

namespace Outflow

namespace Outcome

/-! ### Writers with little room -/

theorem stdout_deliver (writers : Stream.Pair Writer) (out err : Bytes) :
    (deliver writers out err).1.stdout.received =
      writers.stdout.received ++ writers.stdout.share out := by
  rw [← Writer.received_write, deliver]
  rcases writers.stdout.write out with ⟨stdout, e | done⟩
  · rfl
  · rcases writers.stderr.write err with ⟨stderr, e | done⟩
    · rfl
    · exact received_flushBoth ⟨stdout, stderr⟩ .stdout

theorem stderr_deliver (writers : Stream.Pair Writer) (out err : Bytes) :
    (deliver writers out err).1.stderr.received = writers.stderr.received ++
      if writers.stdout.Fits out then writers.stderr.share err else [] := by
  have hreceived := writers.stderr.received_write err
  simp only [← Writer.write_eq_ok_iff]
  rw [deliver]
  rcases writers.stdout.write out with ⟨stdout, e | done⟩
  · simp
  · rw [if_pos rfl, ← hreceived]
    rcases writers.stderr.write err with ⟨stderr, e | done⟩
    · rfl
    · exact received_flushBoth ⟨stdout, stderr⟩ .stderr

theorem flushBoth_snd (writers : Stream.Pair Writer) :
    (flushBoth writers).2 = (do writers.stdout.flush.2; writers.stderr.flush.2) := by
  rw [flushBoth]
  rcases writers.stdout.flush with ⟨stdout, e | done⟩ <;> rfl

/-- The answer is that of the first step that fails. -/
theorem deliver_snd (writers : Stream.Pair Writer) (out err : Bytes) :
    (deliver writers out err).2 = (do
      (writers.stdout.write out).2
      (writers.stderr.write err).2
      writers.stdout.flush.2
      writers.stderr.flush.2) := by
  -- What is written does not change how a flush ends.
  rw [deliver, ← writers.stdout.flush_write out, ← writers.stderr.flush_write err]
  rcases writers.stdout.write out with ⟨stdout, e | done⟩
  · rfl
  · rcases writers.stderr.write err with ⟨stderr, e | done⟩
    · rfl
    · exact flushBoth_snd ⟨stdout, stderr⟩

theorem bind_eq_ok_iff {first next : Except IoError Unit} :
    (do first; next) = .ok () ↔ first = .ok () ∧ next = .ok () := by
  rcases first with e | done <;> simp [bind, Except.bind]

theorem deliver_eq_ok_iff (writers : Stream.Pair Writer) (out err : Bytes) :
    (deliver writers out err).2 = .ok () ↔
      writers.stdout.Fits out ∧ writers.stderr.Fits err ∧
        writers.stdout.failsFlush = false ∧ writers.stderr.failsFlush = false := by
  rw [deliver_snd, bind_eq_ok_iff, bind_eq_ok_iff, bind_eq_ok_iff, Writer.write_eq_ok_iff,
    Writer.write_eq_ok_iff, Writer.flush_eq_ok_iff, Writer.flush_eq_ok_iff]

/-- **Writers receive as much of a text report as they have room for, stdout first.**  The answer is
    that of the first of four steps to fail: the write to stdout, the write to stderr, the flush of
    stdout, the flush of stderr.  The report of a result or of a timeout replays the output. -/
theorem writeText_bounded (o : Outcome) (stderrLogged : Bool) (writers : Stream.Pair Writer) :
    let out := o.written stderrLogged .stdout
    let err := o.written stderrLogged .stderr
    let after := o.writeText stderrLogged writers
    after.1.stdout.received = writers.stdout.received ++ writers.stdout.share out ∧
    after.1.stderr.received = writers.stderr.received ++
      (if writers.stdout.Fits out then writers.stderr.share err else []) ∧
    after.2 = (do
      (writers.stdout.write out).2
      (writers.stderr.write err).2
      writers.stdout.flush.2
      writers.stderr.flush.2) ∧
    (after.2 = .ok () ↔ writers.stdout.Fits out ∧ writers.stderr.Fits err ∧
      writers.stdout.failsFlush = false ∧ writers.stderr.failsFlush = false) ∧
    (∀ done, o = .ok done →
      out = done.stdout ∧ (stderrLogged = false → done.stderr <+: err)) ∧
    ∀ args timeout stdout stderr, o = .error (.timeout args timeout stdout stderr) →
      out = stdout ∧ (stderrLogged = false → stderr <+: err) := by
  intro out err after
  have hafter : after = deliver writers out err := by
    simp only [after, out, err, written_eq]
    exact writeText_eq_deliver o stderrLogged writers
  rw [hafter]
  refine ⟨stdout_deliver writers out err, stderr_deliver writers out err,
    deliver_snd writers out err, deliver_eq_ok_iff writers out err, ?_, ?_⟩
  · rintro done rfl
    obtain ⟨hout, herr⟩ := written_ok done stderrLogged
    refine ⟨hout, fun hlogged => ?_⟩
    simp [err, herr, hlogged]
  · rintro args timeout stdout stderr rfl
    obtain ⟨hout, herr⟩ := written_timeout_eq args timeout stdout stderr stderrLogged
    refine ⟨hout, fun hlogged => ?_⟩
    simp [err, herr, hlogged]

/-- A result whose stdout fits exactly and whose stderr does not. -/
theorem writeText_bounded_exact :
    let done : Completed := ⟨["tool"], 0, [1, 2], [3, 4, 5], .zero⟩
    let writers : Stream.Pair Writer := ⟨.start (some 2) true, .start (some 1) false⟩
    (∃ o : Outcome, o = .ok done) ∧
      (written (.ok done) false .stdout = [1, 2] ∧ [3, 4, 5] <+: written (.ok done) false .stderr) ∧
      (writeText (.ok done) false writers).1.stdout.received = [1, 2] ∧
      (writeText (.ok done) false writers).1.stderr.received = [3] ∧
      (writeText (.ok done) false writers).2 = .error (.noted .storageFull "writer full") := by
  intro done writers
  obtain ⟨hstdout, hstderr, hanswer, -, hdone, -⟩ := writeText_bounded (.ok done) false writers
  obtain ⟨hout, herr⟩ := hdone done rfl
  exact ⟨⟨_, rfl⟩, ⟨hout, herr rfl⟩, hstdout.trans (by decide), hstderr.trans (by decide),
    hanswer.trans (by decide)⟩

/-! ### Stderr that has been logged -/

/-- An outcome apart from the stderr that it carries. -/
def withoutStderr : Outcome → Outcome
  | .ok done => .ok { done with stderr := [] }
  | .error (.commandFailed args code stdout _) => .error (.commandFailed args code stdout [])
  | .error (.timeout args timeout stdout _) => .error (.timeout args timeout stdout [])
  | .error e => .error e

/-- The lines of stderr that the report of a failed command shows. -/
def shownTail : Outcome → String
  | .error (.commandFailed _ _ _ stderr) => stderr.tailLines shownLines
  | _ => ""

theorem status_withoutStderr (o : Outcome) :
    (Report.ofOutcome o.withoutStderr).status = (Report.ofOutcome o).status := by
  cases o with
  | ok done => rfl
  | error e => cases e <;> rfl

theorem shownTail_of_status {o : Outcome} (h : (Report.ofOutcome o).status ≠ .failed) :
    o.shownTail = "" := by
  cases o with
  | ok done => rfl
  | error e =>
    cases e with
    | commandFailed args code stdout stderr => exact absurd rfl h
    | _ => rfl

/-- Stderr is told of in one place only. -/
theorem textPieces_logged (o : Outcome) :
    o.textPieces true = o.withoutStderr.textPieces true ++
      if o.shownTail = "" then [] else [(.stderr, textLine o.shownTail)] := by
  cases o with
  | ok done => rfl
  | error e =>
    cases e with
    | commandFailed args code stdout stderr =>
      have hnone : Bytes.tailLines [] shownLines = "" := by decide
      by_cases htail : stderr.tailLines shownLines = "" <;>
        simp [textPieces, withoutStderr, shownTail, hnone, htail]
    | _ => rfl

theorem textLine_inj {s t : String} (h : textLine s = textLine t) : s = t := by
  have htext := congrArg Bytes.text (List.append_cancel_right h)
  rwa [Bytes.text_ofText, Bytes.text_ofText] at htext

theorem written_logged (o : Outcome) :
    o.written true .stderr = o.withoutStderr.written true .stderr ++
      if o.shownTail = "" then [] else textLine o.shownTail := by
  rw [written_eq, textPieces_logged, Chunks.octetsOf_append, ← written_eq]
  congr 1
  split <;> simp

/-- **Of outcomes that differ only in their stderr, once it has been logged, the same is reported
    unless a command failed.**  In general as much is written to stderr as the last lines that are
    shown of a failed command tell. -/
theorem writeText_logged {o o' : Outcome} (h : o.withoutStderr = o'.withoutStderr) :
    ((Report.ofOutcome o).status ≠ .failed →
      ∀ writers, o.writeText true writers = o'.writeText true writers) ∧
    (o.written true .stderr = o'.written true .stderr ↔ o.shownTail = o'.shownTail) := by
  refine ⟨fun hstatus writers => ?_, ?_⟩
  · have hstatus' : (Report.ofOutcome o').status ≠ .failed := by
      rwa [← status_withoutStderr, ← h, status_withoutStderr]
    rw [writeText, writeText, textPieces_logged o, textPieces_logged o', h,
      shownTail_of_status hstatus, shownTail_of_status hstatus']
  · rw [written_logged o, written_logged o', h, List.append_cancel_left_eq]
    constructor
    · intro hshown
      -- A line that is shown has a newline at its end, so it differs from no line at all.
      have hne : ∀ s, textLine s ≠ [] := fun s => by simp [textLine]
      by_cases ho : o.shownTail = "" <;> by_cases ho' : o'.shownTail = ""
      · rw [ho, ho']
      · exact absurd hshown.symm (by simp [ho, ho', hne])
      · exact absurd hshown (by simp [ho, ho', hne])
      · exact textLine_inj (by simpa [ho, ho'] using hshown)
    · intro hshown
      rw [hshown]

/-- A timeout after two different warnings, and failures that differ in newlines at the end. -/
theorem writeText_logged_timeout :
    let late (stderr : Bytes) : Outcome := .error (.timeout ["tool"] (.ofSecs 1) [] stderr)
    let failed (stderr : Bytes) : Outcome := .error (.commandFailed ["tool"] 2 [] stderr)
    (late [97]).withoutStderr = (late [98]).withoutStderr ∧
      (∀ writers, (late [97]).writeText true writers = (late [98]).writeText true writers) ∧
      (failed [97]).withoutStderr = (failed [97, 10, 10]).withoutStderr ∧
      (failed [97]).written true .stderr = (failed [97, 10, 10]).written true .stderr := by
  intro late failed
  have hlate : (late [97]).withoutStderr = (late [98]).withoutStderr := rfl
  have hfailed : (failed [97]).withoutStderr = (failed [97, 10, 10]).withoutStderr := rfl
  exact ⟨hlate, (writeText_logged hlate).1 (by decide), hfailed,
    (writeText_logged hfailed).2.2 (by decide)⟩

/-- The stderr of a failed command, which has been logged, is shown once more. -/
theorem writeText_repeats_stderr :
    let failed (stderr : Bytes) : Outcome := .error (.commandFailed ["sh"] 3 [] stderr)
    let nope : Bytes := [110, 111, 112, 101, 10]
    (failed nope).withoutStderr = (failed []).withoutStderr ∧
      (failed nope).written true .stderr = (failed []).written true .stderr ++ nope := by
  intro failed nope
  refine ⟨rfl, ?_⟩
  have htail : (failed nope).shownTail = "nope" := by decide
  have hnone : failed [] = (failed nope).withoutStderr := rfl
  rw [written_logged, htail, hnone]
  rfl

end Outcome

end Outflow
