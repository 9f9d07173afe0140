import Outflow.Application
import Outflow.Proofs.Execution.Calls
import Outflow.Proofs.Execution.Outcome
import Outflow.Proofs.Options
import Outflow.Proofs.Report.Text

/-!
# The program as a whole

What the program writes and its exit status, told from its arguments and from what is outside: the
settings, what starting a command comes to, and what the child will do.

The answer to a command line that leads to a child (`Starts`) reports what is foretold of the run
of that child.  A plain run hands on the output of its child octet for octet, and its exit code
with it.

## Key results

- `answered`: what becomes of every command line
- `Starts.answer_of_foretold`: an outcome that is foretold is reported
- `answer_eq_none_iff`: there is no answer just if a child is started whose run never ends
- `exists_answer_of_timeout`: with a timeout there is one, whatever the child does
- `status_answer_eq_zero_iff`: the exit status is zero just if nothing goes wrong on the way from
  the arguments to the report
- `answer_run_exits`: a plain run, from its arguments to the octets that it hands on
- `answer_congr_start`: only a command that was asked for is started, with valid settings
-/

namespace Outflow

namespace Application

open Execution Schedule
open CommandLine (OptionUse WellGiven valuesOf Asks)

variable {out : Outside} {args : List String} {n : Nat} {o : RunOptions} {config : RunnerConfig}
  {command : Command} {s : Started} {outcome : Outcome} {writers : Stream.Pair Writer}

/-! ### What is reported -/

/-- What the report of an outcome writes to a stream that takes everything. -/
def reported (o : RunOptions) (outcome : Outcome) (t : Stream) : Bytes :=
  match o.format, t with
  | .text, t => outcome.written o.live t
  | .json, .stdout => Bytes.ofText outcome.jsonText
  | .json, .stderr => []

/-- The streams take the whole report of an outcome. -/
structure Accepts (writers : Stream.Pair Writer) (o : RunOptions) (outcome : Outcome) : Prop where
  stdout : writers.stdout.Fits (reported o outcome .stdout)
  stderr : writers.stderr.Fits (reported o outcome .stderr)
  /-- Only a text is flushed. -/
  flush : o.format = .text →
    writers.stdout.failsFlush = false ∧ writers.stderr.failsFlush = false

/-- A report is written if the streams take it. -/
theorem writeReport_eq_ok_iff (o : RunOptions) (outcome : Outcome)
    (writers : Stream.Pair Writer) :
    (writeReport o outcome writers).2 = .ok () ↔ Accepts writers o outcome := by
  unfold writeReport
  cases hformat : o.format with
  | text =>
    have hout : reported o outcome = outcome.written o.live := by
      funext t
      simp only [reported, hformat]
    dsimp only
    rw [Outcome.writeText_eq_deliver, Outcome.deliver_eq_ok_iff, ← Outcome.written_eq,
      ← Outcome.written_eq, ← hout]
    exact ⟨fun ⟨h₁, h₂, h₃, h₄⟩ => ⟨h₁, h₂, fun _ => ⟨h₃, h₄⟩⟩,
      fun h => ⟨h.stdout, h.stderr, (h.flush hformat).1, (h.flush hformat).2⟩⟩
  | json =>
    have hout : reported o outcome .stdout = Bytes.ofText outcome.jsonText := by
      simp only [reported, hformat]
    have herr : reported o outcome .stderr = [] := by
      simp only [reported, hformat]
    refine (Writer.write_eq_ok_iff _ _).trans
      ⟨fun h => ⟨hout ▸ h, ?_, ?_⟩, fun h => hout ▸ h.stdout⟩
    · rw [herr]
      exact fun room _ => Nat.zero_le room
    · intro htext
      rw [hformat] at htext
      contradiction

/-- Standard output receives as much of a report as it has room for. -/
theorem stdout_writeReport (o : RunOptions) (outcome : Outcome) (writers : Stream.Pair Writer) :
    (writeReport o outcome writers).1.stdout.received =
      writers.stdout.received ++ writers.stdout.share (reported o outcome .stdout) := by
  unfold writeReport reported
  cases o.format with
  | text =>
    dsimp only
    rw [Outcome.writeText_eq_deliver, Outcome.stdout_deliver, Outcome.written_eq]
  | json => exact Writer.received_write _ _

theorem stderr_writeReport (h : Accepts writers o outcome) :
    (writeReport o outcome writers).1.stderr.received =
      writers.stderr.received ++ reported o outcome .stderr := by
  have hshare := writers.stderr.share_of_fits h.stderr
  have hfits := h.stdout
  unfold writeReport
  unfold reported at hshare hfits ⊢
  cases hformat : o.format with
  | text =>
    simp only [hformat] at hshare hfits ⊢
    rw [Outcome.written_eq] at hshare hfits ⊢
    rw [Outcome.writeText_eq_deliver, Outcome.stderr_deliver, if_pos hfits, hshare]
  | json => exact (List.append_nil _).symm

/-- The streams take everything that is written to them. -/
structure TakesAll (writers : Stream.Pair Writer) : Prop where
  room : ∀ t, (writers.get t).room = none
  flush : ∀ t, (writers.get t).failsFlush = false

theorem TakesAll.fits (h : TakesAll writers) (t : Stream) (bytes : Bytes) :
    (writers.get t).Fits bytes := by
  intro room hroom
  rw [h.room t] at hroom
  contradiction

theorem TakesAll.accepts (h : TakesAll writers) : Accepts writers o outcome where
  stdout := h.fits .stdout _
  stderr := h.fits .stderr _
  flush _ := ⟨h.flush .stdout, h.flush .stderr⟩

/-- What is reported as a text does not tell of time. -/
theorem reported_untimed (hformat : o.format = .text) (outcome : Outcome) :
    reported o outcome.untimed = reported o outcome := by
  funext t
  simp only [reported, hformat, Outcome.written, Outcome.writeText_untimed]

/-- The log of a run, as it is shown. -/
def logged (view : LogView) (r : Run) : Bytes :=
  Bytes.ofText (view.text (Emission.forwardedLogs r.pid r.emitted))

/-- An answer tells of a run: the log comes before the report, and after both what there is to say
    if the streams do not take the report. -/
structure Reports (out : Outside) (o : RunOptions) (view : LogView) (r : Run) (a : Answer) :
    Prop where
  stdout : a.stdout = r.inherited.stdout ++
    (out.writers.stdout.received ++ out.writers.stdout.share (reported o r.outcome .stdout))
  log : logged view r ++ r.inherited.stderr <+: a.stderr
  stderr : Accepts out.writers o r.outcome → a.stderr = logged view r ++ r.inherited.stderr ++
    (out.writers.stderr.received ++ reported o r.outcome .stderr)
  status : Accepts out.writers o r.outcome → a.status = r.outcome.exitStatus.toNat
  status_refused : ¬ Accepts out.writers o r.outcome → a.status = Failure.generalStatus

theorem reports_report (view : LogView) (n : Nat) (r : Run) :
    Reports out o view r (report out o view n r) := by
  have hout := stdout_writeReport o r.outcome out.writers
  have herr := @stderr_writeReport o r.outcome out.writers
  have hiff := writeReport_eq_ok_iff o r.outcome out.writers
  unfold report
  generalize writeReport o r.outcome out.writers = result at hout herr hiff
  obtain ⟨writers, e | done⟩ := result
  · -- The report was not taken, and something is said of that.
    have hrefused : ¬ Accepts out.writers o r.outcome := fun h => nomatch hiff.2 h
    refine ⟨congrArg (r.inherited.stdout ++ ·) hout, ?_, (absurd · hrefused), (absurd · hrefused),
      fun _ => rfl⟩
    dsimp only [fail]
    rw [← logged, List.append_assoc (logged view r ++ r.inherited.stderr)]
    exact List.prefix_append _ _
  · refine ⟨congrArg (r.inherited.stdout ++ ·) hout, List.prefix_append _ _, fun h => ?_,
      fun _ => rfl, fun hrefused => absurd (hiff.1 rfl) hrefused⟩
    exact congrArg (logged view r ++ r.inherited.stderr ++ ·) (herr h)

/-! ### From the arguments to a child -/

/-- A command line leads to a child: it asks for a run, the settings can be had, the command can be
    built, and it can be started. -/
structure Starts (out : Outside) (args : List String) (n : Nat) (o : RunOptions)
    (config : RunnerConfig) (command : Command) (s : Started) : Prop where
  asks : CommandLine.ofArgs args = .ok ⟨n, .run o⟩
  settings : settings out o.config = .ok config
  builds : o.toCommand = .ok command
  starts : out.start command = .ok s

/-- Why nothing is started for a request, although it was understood. -/
inductive Fails (out : Outside) : Request → Failure → Prop where
  | shown {path : Option String} {f : Failure} (h : settings out path = .error f) :
    Fails out (.config path) f
  | settings {o : RunOptions} {f : Failure} (h : settings out o.config = .error f) :
    Fails out (.run o) f
  | command {o : RunOptions} {config : RunnerConfig} {e : RunError}
    (hsettings : Application.settings out o.config = .ok config)
    (h : o.toCommand = .error e) : Fails out (.run o) (.command e)

/-- What becomes of a command line. -/
inductive Answered (out : Outside) (args : List String) : Option Answer → Prop where
  | explained {e : UsageError} (h : CommandLine.ofArgs args = .error e) :
    Answered out args (some ⟨e.exitStatus, Bytes.ofText e.stdoutText, Bytes.ofText e.stderrText⟩)
  | shown {n : Nat} {path : Option String} {config : RunnerConfig}
    (h : CommandLine.ofArgs args = .ok ⟨n, .config path⟩)
    (hsettings : settings out path = .ok config) :
    Answered out args (some ⟨0, Bytes.ofText config.render, []⟩)
  | failed {n : Nat} {request : Request} {f : Failure} (live : Bool)
    (h : CommandLine.ofArgs args = .ok ⟨n, request⟩) (hfails : Fails out request f) :
    Answered out args (some (fail (logView out n live) n ⟨[], []⟩ f))
  | unstarted {n : Nat} {o : RunOptions} {config : RunnerConfig} {command : Command}
    {e : IoError} (h : CommandLine.ofArgs args = .ok ⟨n, .run o⟩)
    (hsettings : settings out o.config = .ok config) (hcommand : o.toCommand = .ok command)
    (hstart : out.start command = .error e) :
    Answered out args (some (report out o (logView out n o.live) n (Run.unstarted command e)))
  | ran {n : Nat} {o : RunOptions} {config : RunnerConfig} {command : Command} {s : Started}
    (h : Starts out args n o config command s) :
    Answered out args ((execute config command s.child (Run.streams command s)).map fun x =>
      report out o (logView out n o.live) n (Run.executed command s x))

/-- **Every command line comes to an explanation, to the settings, to a failure, or to a run.** -/
theorem answered (out : Outside) (args : List String) : Answered out args (answer out args) := by
  -- Stage by stage: the first that fails settles the answer.
  unfold answer
  cases hargs : CommandLine.ofArgs args with
  | error e => exact .explained hargs
  | ok c =>
    obtain ⟨n, request⟩ := c
    cases request with
    | config path =>
      dsimp only [carryOut, showSettings]
      cases hsettings : settings out path with
      | error f => exact .failed false hargs (.shown hsettings)
      | ok config => exact .shown hargs hsettings
    | run o =>
      dsimp only [carryOut, run, Outside.run]
      cases hsettings : settings out o.config with
      | error f => exact .failed o.live hargs (.settings hsettings)
      | ok config =>
        cases hcommand : o.toCommand with
        | error e => exact .failed o.live hargs (.command hsettings hcommand)
        | ok command =>
          dsimp only
          cases hstart : out.start command with
          | error e => exact .unstarted hargs hsettings hcommand hstart
          | ok s =>
            rw [Run.ofStart, Option.map_map]
            exact .ran ⟨hargs, hsettings, hcommand, hstart⟩

/-- A run of the child is carried out and reported. -/
theorem Starts.answer_eq (h : Starts out args n o config command s) :
    answer out args = (execute config command s.child (Run.streams command s)).map fun x =>
      report out o (logView out n o.live) n (Run.executed command s x) := by
  simp only [answer, h.asks, carryOut, run, h.settings, h.builds, Outside.run, h.starts,
    Run.ofStart, Option.map_map]
  rfl

/-- **What is foretold of the run of a child is reported.** -/
theorem Starts.answer_of_foretold (h : Starts out args n o config command s)
    (hforetold :
      Foretold config command s.child ((Run.streams command s).getD []) (some outcome)) :
    ∃ x a, execute config command s.child (Run.streams command s) = some x ∧
      x.outcome.untimed = outcome ∧ answer out args = some a ∧
      Reports out o (logView out n o.live) (Run.executed command s x) a := by
  obtain ⟨x, hx, houtcome⟩ := Option.map_eq_some_iff.1 (outcome_of_foretold hforetold)
  exact ⟨x, _, hx, houtcome, by rw [h.answer_eq, hx]; rfl, reports_report _ n _⟩

/-- There is no answer just if a child is started whose run does not come back. -/
theorem exists_starts_of_answer_eq_none (h : answer out args = none) :
    ∃ n o config command s, Starts out args n o config command s ∧
      execute config command s.child (Run.streams command s) = none := by
  have hanswered := answered out args
  rw [h] at hanswered
  generalize hnone : (none : Option Answer) = a at hanswered
  cases hanswered with
  | ran hstarts => exact ⟨_, _, _, _, _, hstarts, Option.map_eq_none_iff.1 hnone.symm⟩
  | _ => contradiction

/-- **There is no answer just if a child is started whose run is foretold never to end.** -/
theorem answer_eq_none_iff (out : Outside) (args : List String) :
    answer out args = none ↔ ∃ n o config command s, Starts out args n o config command s ∧
      Foretold config command s.child ((Run.streams command s).getD []) none := by
  constructor
  · intro hnone
    obtain ⟨n, o, config, command, s, h, hexecute⟩ := exists_starts_of_answer_eq_none hnone
    have hforetold := foretold_outcome config command s.child (Run.streams command s)
    rw [hexecute] at hforetold
    exact ⟨n, o, config, command, s, h, hforetold⟩
  · rintro ⟨n, o, config, command, s, h, hforetold⟩
    rw [h.answer_eq, Option.map_eq_none_iff.1 (outcome_of_foretold hforetold)]
    rfl

/-- **A run that was given a timeout is answered, whatever the child does.** -/
theorem exists_answer_of_timeout (htimeout : ∀ n o, CommandLine.ofArgs args = .ok ⟨n, .run o⟩ →
    o.timeout ≠ none) : ∃ a, answer out args = some a := by
  refine Option.ne_none_iff_exists'.1 fun hnone => ?_
  obtain ⟨n, o, config, command, s, h, hexecute⟩ := exists_starts_of_answer_eq_none hnone
  obtain ⟨hunset, -⟩ := (Execution.execute_eq_none_iff _ _ _ _).1 hexecute
  have hblank := o.exists_toCommand_iff.1 ⟨command, h.builds⟩
  obtain rfl := Except.ok.inj (h.builds.symm.trans (RunOptions.toCommand_of_not_blank hblank))
  exact htimeout n o h.asks hunset

/-- **Only a command that was asked for is started, and only with valid settings.**  So the answer
    does not depend on what starting any other command comes to. -/
theorem answer_congr_start {start : Command → Except IoError Started}
    (h : ∀ n o config command, CommandLine.ofArgs args = .ok ⟨n, .run o⟩ →
      settings out o.config = .ok config → o.toCommand = .ok command →
      start command = out.start command) :
    answer { out with start } args = answer out args := by
  -- Up to the start the two are the same, and there they ask for one and the same command.
  unfold answer
  cases hargs : CommandLine.ofArgs args with
  | error e => rfl
  | ok c =>
    obtain ⟨n, request⟩ := c
    cases request with
    | config path => rfl
    | run o =>
      have hsettings : settings { out with start } o.config = settings out o.config := rfl
      dsimp only [carryOut, run, Outside.run]
      rw [hsettings]
      cases hconfig : settings out o.config with
      | error f => rfl
      | ok config =>
        cases hcommand : o.toCommand with
        | error e => rfl
        | ok command =>
          dsimp only
          rw [h n o config command hargs hconfig hcommand]
          rfl

/-! ### Success -/

/-- The streams of a child come to good ends within the capture limit, and the child exits with a
    code, all of it in time. -/
structure Finishes (config : RunnerConfig) (command : Command) (child : Child) (σ : Schedule)
    (code : Int32) : Prop where
  streams : ∀ t, endOf t σ = .eof ∧
    CaptureLimit.refuses config.captureLimit (outputOf t σ).length = false
  code : child.waitAnswer = .exits code
  inTime : within (deadline command) (drainTime σ + child.waitDelay) = true

/-- The outcome of a child that finishes is that of its exit code. -/
theorem Finishes.foretold {child : Child} {σ : Schedule} {code : Int32}
    (h : Finishes config command child σ code) :
    Foretold config command child σ (some (.ofExit command.args code
      (CaptureLimit.kept config.captureLimit (outputOf .stdout σ))
      (CaptureLimit.kept config.captureLimit (outputOf .stderr σ)) .zero)) := by
  have hdrain : within (deadline command) (drainTime σ) = true :=
    within_of_le h.inTime (Nat.le_add_right _ _)
  obtain ⟨read, hcourse⟩ := (exists_course_ended_iff _ _ _).2 ⟨h.streams, hdrain⟩
  have htime := h.inTime
  rw [← hcourse.span_of_ended] at htime
  unfold Outcome.ofExit
  by_cases hcode : code = 0
  · subst hcode
    rw [if_pos rfl]
    exact .succeeded hcourse h.code htime
  · rw [if_neg hcode]
    exact .commandFailed hcourse h.code hcode htime

/-- Nothing goes wrong with a command line: it asks for an explanation, for settings that can be
    had, or for a run whose child exits with code zero and whose report is taken. -/
inductive Succeeds (out : Outside) (args : List String) : Prop where
  | explained {e : UsageError} (h : CommandLine.ofArgs args = .error e) (he : e.exitStatus = 0)
  | shown {n : Nat} {path : Option String} {config : RunnerConfig}
    (h : CommandLine.ofArgs args = .ok ⟨n, .config path⟩)
    (hsettings : settings out path = .ok config)
  | ran {n : Nat} {o : RunOptions} {config : RunnerConfig} {command : Command} {s : Started}
    (h : Starts out args n o config command s)
    (hfinishes : Finishes config command s.child ((Run.streams command s).getD []) 0)
    (haccepts : ∀ x, execute config command s.child (Run.streams command s) = some x →
      Accepts out.writers o x.outcome)

/-- A failure of the program itself is told by the status. -/
theorem status_ne_zero (f : Failure) : f.status ≠ 0 := by
  cases f <;> simp [Failure.status, Failure.settingsStatus, Failure.generalStatus]

/-- The answer to a run has status zero just if the run is a success and its report is taken. -/
theorem status_report_eq_zero_iff (view : LogView) (n : Nat) (r : Run) :
    (report out o view n r).status = 0 ↔
      r.outcome.exitStatus = 0 ∧ Accepts out.writers o r.outcome := by
  have hreports : Reports out o view r (report out o view n r) := reports_report view n r
  have hnonneg : 0 ≤ r.outcome.exitStatus := Outcome.exitStatus_nonneg _
  by_cases haccepts : Accepts out.writers o r.outcome
  · rw [hreports.status haccepts, and_iff_left haccepts]
    omega
  · rw [hreports.status_refused haccepts]
    exact iff_of_false (by decide) fun h => haccepts h.2

/-- A child that was started makes the status zero if it finishes with code zero. -/
theorem Starts.status_eq_zero_iff (h : Starts out args n o config command s) :
    (∃ a, answer out args = some a ∧ a.status = 0) ↔
      Finishes config command s.child ((Run.streams command s).getD []) 0 ∧
      ∀ x, execute config command s.child (Run.streams command s) = some x →
        Accepts out.writers o x.outcome := by
  have hok := exitStatus_execute_iff (execute config command s.child (Run.streams command s))
  rw [h.answer_eq]
  constructor
  · rintro ⟨a, ha, hstatus⟩
    obtain ⟨x, hx, rfl⟩ := Option.map_eq_some_iff.1 ha
    obtain ⟨hzero, haccepts⟩ := (status_report_eq_zero_iff _ n _).1 hstatus
    obtain ⟨done, hdone⟩ := hok.1 ⟨x, hx, hzero⟩
    have hforetold := foretold_outcome config command s.child (Run.streams command s)
    rw [hdone] at hforetold
    obtain ⟨hstreams, hcode, htime⟩ := (foretold_ok_iff _ _ _ _).1 ⟨done, hforetold⟩
    refine ⟨⟨hstreams, hcode, htime⟩, fun y hy => ?_⟩
    obtain rfl := Option.some.inj (hx.symm.trans hy)
    exact haccepts
  · -- What is foretold of a child that finishes with code zero is a success.
    rintro ⟨hfinishes, haccepts⟩
    obtain ⟨x, hx, hzero⟩ := hok.2 ⟨_, outcome_of_foretold hfinishes.foretold⟩
    exact ⟨_, by rw [hx]; rfl, (status_report_eq_zero_iff _ n _).2 ⟨hzero, haccepts x hx⟩⟩

/-- A command that could not be started is not a success. -/
theorem status_report_unstarted (view : LogView) (n : Nat) (e : IoError) :
    (report out o view n (Run.unstarted command e)).status ≠ 0 := by
  intro hzero
  have hpos := (Outcome.exitStatus_error_mem (.spawn command.args e)).1
  have hstatus : Outcome.exitStatus (.error (.spawn command.args e)) = 0 :=
    ((status_report_eq_zero_iff view n _).1 hzero).1
  omega

/-- **The exit status is zero just if nothing goes wrong, from the arguments to the report.** -/
theorem status_answer_eq_zero_iff (out : Outside) (args : List String) :
    (∃ a, answer out args = some a ∧ a.status = 0) ↔ Succeeds out args := by
  constructor
  · -- Neither a failure nor a child that could not be started ever has status zero.
    rintro ⟨a, ha, hstatus⟩
    have hanswered := answered out args
    rw [ha] at hanswered
    generalize hsome : some a = result at hanswered
    cases hanswered with
    | explained h =>
      obtain rfl := Option.some.inj hsome
      exact .explained h hstatus
    | shown h hsettings => exact .shown h hsettings
    | failed =>
      obtain rfl := Option.some.inj hsome
      exact absurd hstatus (status_ne_zero _)
    | unstarted =>
      obtain rfl := Option.some.inj hsome
      exact absurd hstatus (status_report_unstarted _ _ _)
    | ran h =>
      obtain ⟨hfinishes, haccepts⟩ := h.status_eq_zero_iff.1 ⟨a, ha, hstatus⟩
      exact .ran h hfinishes haccepts
  · intro h
    cases h with
    | explained h he => exact ⟨_, by rw [answer, h], he⟩
    | @shown n path config h hsettings =>
      refine ⟨⟨0, Bytes.ofText config.render, []⟩, ?_, rfl⟩
      simp only [answer, h, carryOut, showSettings, hsettings, Except.map]
    | ran h hfinishes haccepts => exact h.status_eq_zero_iff.2 ⟨hfinishes, haccepts⟩

/-! ### A plain run -/

/-- The answer to a run whose child finishes, with its report as a text for streams that take
    everything. -/
theorem Starts.answer_of_finishes {code : Int32} (h : Starts out args n o config command s)
    (hformat : o.format = .text) (htakes : TakesAll out.writers)
    (hcaptured : command.capture = .captured)
    (hfinishes : Finishes config command s.child s.schedule code) :
    let kept t := CaptureLimit.kept config.captureLimit (outputOf t s.schedule)
    let outcome := Outcome.ofExit command.args code (kept .stdout) (kept .stderr) .zero
    ∃ a, answer out args = some a ∧ (a.status : Int) = outcome.exitStatus ∧
      a.stdout = out.writers.stdout.received ++ kept .stdout ∧
      out.writers.stderr.received ++ outcome.written o.live .stderr <:+ a.stderr := by
  intro kept outcome
  have hstreams : Run.streams command s = some s.schedule := by
    rw [Run.streams, hcaptured]
  have hforetold :
      Foretold config command s.child ((Run.streams command s).getD []) (some outcome) := by
    rw [hstreams]
    exact hfinishes.foretold
  obtain ⟨x, a, -, houtcome, ha, hreports⟩ := h.answer_of_foretold hforetold
  have haccepts : Accepts out.writers o (Run.executed command s x).outcome := htakes.accepts
  -- Of the outcome, only the time is not foretold, and that is not reported.
  have hstatus : x.outcome.exitStatus = outcome.exitStatus := by
    rw [← Outcome.exitStatus_untimed, houtcome]
  have hwritten : ∀ t, reported o x.outcome t = outcome.written o.live t := by
    intro t
    rw [← reported_untimed hformat, houtcome]
    simp only [reported, hformat]
  refine ⟨a, ha, ?_, ?_, ?_⟩
  · rw [hreports.status haccepts, ← hstatus]
    exact Int.toNat_of_nonneg (Outcome.exitStatus_nonneg _)
  · have hinherited : (Run.executed command s x).inherited = ⟨[], []⟩ := by
      rw [Run.executed, hcaptured]
    have hout : reported o x.outcome .stdout = kept .stdout :=
      (hwritten .stdout).trans (Outcome.written_ofExit ..)
    rw [hreports.stdout, hinherited, List.nil_append, ← hout]
    exact congrArg _ (Writer.share_of_fits _ haccepts.stdout)
  · rw [hreports.stderr haccepts, ← hwritten]
    exact List.suffix_append _ _

/-- **A plain run is transparent.**  Some options that go together, none of which asks for another
    format or for streams that are left alone, and a command, lead to that command just as it
    stands, with what the options say of it.  If its child comes to an end of its own, then
    what the child wrote to its stdout, as far as the capture limit keeps it, stands on the stdout
    of this program, and nothing else; the exit status is made of the code of the child; and after
    a success, without live output, its stderr comes last on stderr. -/
theorem answer_run_exits {uses : List OptionUse} {words divider : List String}
    (hwell : WellGiven uses) (hwords : words ≠ [])
    (hdivider : divider = ["--"] ∨ divider = [] ∧ (words.headD "").toList.head? ≠ some '-')
    (hblank : Text.blank (words.headD "") = false)
    (htext : (valuesOf .format uses).headD "text" = "text")
    (hcapture : .switch .noCapture ∉ uses.map OptionUse.choice)
    (htakes : TakesAll out.writers) :
    ∃ o command, Asks uses words o ∧ o.Carries command ∧ command.args = words ∧
      ∀ config s code, settings out o.config = .ok config → out.start command = .ok s →
        Finishes config command s.child s.schedule code →
        let kept t := CaptureLimit.kept config.captureLimit (outputOf t s.schedule)
        ∃ a, answer out ("run" :: (uses.flatMap OptionUse.args ++ (divider ++ words))) = some a ∧
          a.stdout = out.writers.stdout.received ++ kept .stdout ∧
          (a.status : Int) =
            (if 0 ≤ code.toInt ∧ code.toInt ≤ 255 then code.toInt
            else if code.toInt < 0 then 128 + min (-code.toInt) 127
            else 1) ∧
          (code = 0 → .switch .live ∉ uses.map OptionUse.choice →
            out.writers.stderr.received ++ kept .stderr <:+ a.stderr) := by
  obtain ⟨g, o, hasks, -, ho⟩ := CommandLine.exists_ofArgs_run hwell hwords hdivider
  obtain ⟨command, hcommand⟩ := o.exists_toCommand_iff.2 (ho.command ▸ hblank)
  have hcarries : o.Carries command := o.carries_of_toCommand (ho.command ▸ hwords) hcommand
  have hargs : command.args = words := hcarries.args.trans ho.command
  have hformat : o.format = .text := by
    have hname := ho.format.trans htext
    revert hname
    cases o.format <;> decide
  have hcaptured : command.capture = .captured := by
    rw [hcarries.capture, if_neg fun h => hcapture (ho.noCapture.1 h)]
  refine ⟨o, command, ho, hcarries, hargs, fun config s code hconfig hstart hfinishes => ?_⟩
  intro kept
  have hstarts : Starts out _ _ o config command s := ⟨hasks, hconfig, hcommand, hstart⟩
  obtain ⟨a, ha, hstatus, hstdout, hstderr⟩ :=
    hstarts.answer_of_finishes hformat htakes hcaptured hfinishes
  refine ⟨a, ha, hstdout, ?_, fun hcode hlive => ?_⟩
  · rw [hstatus, Outcome.exitStatus_ofExit]
  · have hquiet : o.live = false := Bool.eq_false_iff.2 fun h => hlive (ho.live.1 h)
    have hwritten : (Outcome.ofExit command.args 0 (kept .stdout) (kept .stderr) .zero).written
        false .stderr = kept .stderr := (Outcome.written_ok _ false).2
    rw [hquiet, hcode, hwritten] at hstderr
    exact hstderr

/-- What looks like an option after the divider belongs to the command, and its exit code is handed
    on with the output. -/
example :
    let child : Started := ⟨⟨none, 0, .exits 3, .ok ()⟩, [.delay 5, .data .stdout [104, 105]],
      fun _ => ⟨[], []⟩, fun _ => [], fun _ => .zero⟩
    let start (command : Command) : Except IoError Started :=
      if command.args = ["tool", "--live"] then .ok child else .error (.noted .notFound "")
    let out : Outside := ⟨fun _ => none, fun _ => .error (.noted .notFound ""), fun _ => none, "",
      start, ⟨.start none false, .start none false⟩⟩
    (answer out ["run", "--", "tool", "--live"]).map (fun a => (a.status, a.stdout)) =
      some (3, [104, 105]) := by
  cbv

end Application

end Outflow
