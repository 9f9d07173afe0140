import Outflow.Proofs.Schedule
import Outflow.Proofs.Writer
import Outflow.Report

/-!
# What is reported of an outcome

Writers without bounds receive the pieces of a text report just as they are (`written_eq`).  Of
the time that a run took, nothing that is reported tells but the duration in the report itself,
so outcomes that only a clock tells apart are reported alike (`Agrees`).
-/

namespace Outflow

namespace Outcome

/-! ### Pieces -/

/-- Pieces for one stream are written as their octets together are. -/
theorem writePieces_map (writers : Stream.Pair Writer) (s : Stream) (pieces : List Bytes) :
    writePieces writers (pieces.map (s, ·)) =
      (writers.set s ((writers.get s).write pieces.flatten).1,
        ((writers.get s).write pieces.flatten).2) := by
  rw [← Writer.writeAll_eq]
  induction pieces generalizing writers with
  | nil => rw [List.map_nil, writePieces, Writer.writeAll, Stream.Pair.set_get_self]
  | cons bytes pieces ih =>
    rw [List.map_cons, writePieces, Writer.writeAll]
    rcases (writers.get s).write bytes with ⟨w, e | done⟩
    · rfl
    · simp only [ih, Stream.Pair.get_set_self, Stream.Pair.set_set]

theorem writePieces_append (writers : Stream.Pair Writer) (xs ys : Chunks) :
    writePieces writers (xs ++ ys) =
      match writePieces writers xs with
      | (writers, .ok ()) => writePieces writers ys
      | (writers, .error e) => (writers, .error e) := by
  induction xs generalizing writers with
  | nil => rfl
  | cons piece xs ih =>
    obtain ⟨s, bytes⟩ := piece
    rw [List.cons_append, writePieces, writePieces]
    rcases (writers.get s).write bytes with ⟨w, e | done⟩
    · rfl
    · exact ih _

/-- In every case what goes to stdout comes first. -/
theorem exists_textPieces_eq (outcome : Outcome) (stderrLogged : Bool) :
    ∃ out err : List Bytes, outcome.textPieces stderrLogged =
      out.map (Stream.stdout, ·) ++ err.map (Stream.stderr, ·) := by
  -- The output of a result and that before a timeout are replayed alike.
  have hreplay : ∀ stdout stderr : Bytes, ∃ err : List Bytes,
      ((Stream.stdout, stdout) :: if stderrLogged then [] else [(Stream.stderr, stderr)]) =
        [stdout].map (Stream.stdout, ·) ++ err.map (Stream.stderr, ·) := by
    intro stdout stderr
    cases stderrLogged with
    | true => exact ⟨[], rfl⟩
    | false => exact ⟨[stderr], rfl⟩
  cases outcome with
  | ok done =>
    obtain ⟨err, h⟩ := hreplay done.stdout done.stderr
    exact ⟨[done.stdout], err, h⟩
  | error e =>
    cases e with
    | commandFailed args code stdout stderr =>
      refine ⟨[stdout], textLine s!"Error: \x60{Text.shellJoin args}\x60 exited with code {code}" ::
        if stderr.tailLines shownLines = "" then [] else [textLine (stderr.tailLines shownLines)],
        ?_⟩
      by_cases htail : stderr.tailLines shownLines = "" <;> simp [textPieces, htail]
    | timeout args limit stdout stderr =>
      obtain ⟨err, h⟩ := hreplay stdout stderr
      refine ⟨[stdout], err ++
        [textLine s!"Error: {(RunError.timeout args limit stdout stderr).message}"], ?_⟩
      rw [List.map_append, ← List.append_assoc, ← h]
      rfl
    | _ => exact ⟨[], [_], rfl⟩

/-! ### What a report writes -/

/-- Flushing writes nothing. -/
theorem received_flushBoth (writers : Stream.Pair Writer) (s : Stream) :
    ((flushBoth writers).1.get s).received = (writers.get s).received := by
  unfold flushBoth
  split
  · rename_i out e hflush
    obtain rfl : writers.stdout.flush.1 = out := congrArg Prod.fst hflush
    cases s <;> rfl
  · rename_i out hflush
    obtain rfl : writers.stdout.flush.1 = out := congrArg Prod.fst hflush
    cases s <;> rfl

/-- Write octets to both writers, those for stdout first, and flush them. -/
def deliver (writers : Stream.Pair Writer) (out err : Bytes) :
    Stream.Pair Writer × Except IoError Unit :=
  match writers.stdout.write out with
  | (stdout, .error e) => (⟨stdout, writers.stderr⟩, .error e)
  | (stdout, .ok ()) =>
    match writers.stderr.write err with
    | (stderr, .error e) => (⟨stdout, stderr⟩, .error e)
    | (stderr, .ok ()) => flushBoth ⟨stdout, stderr⟩

theorem writeText_eq_deliver (outcome : Outcome) (stderrLogged : Bool)
    (writers : Stream.Pair Writer) :
    outcome.writeText stderrLogged writers =
      deliver writers (Chunks.octetsOf .stdout (outcome.textPieces stderrLogged))
        (Chunks.octetsOf .stderr (outcome.textPieces stderrLogged)) := by
  obtain ⟨out, err, hpieces⟩ := exists_textPieces_eq outcome stderrLogged
  rw [writeText, hpieces, writePieces_append, writePieces_map, Chunks.octetsOf_append,
    Chunks.octetsOf_append, Chunks.octetsOf_map_self, Chunks.octetsOf_map_self,
    Chunks.octetsOf_map_of_ne _ (by simp), Chunks.octetsOf_map_of_ne _ (by simp), List.append_nil,
    List.nil_append]
  simp only [deliver, Stream.Pair.get]
  rcases writers.stdout.write out.flatten with ⟨stdout, e | done⟩
  · rfl
  · simp only [writePieces_map, Stream.Pair.get, Stream.Pair.set]
    rcases writers.stderr.write err.flatten with ⟨stderr, e | done⟩ <;> rfl

/-- What the text report writes to a stream, if its writers take everything. -/
def written (outcome : Outcome) (stderrLogged : Bool) (s : Stream) : Bytes :=
  ((outcome.writeText stderrLogged ⟨.start none false, .start none false⟩).1.get s).received

theorem written_eq (outcome : Outcome) (stderrLogged : Bool) (s : Stream) :
    outcome.written stderrLogged s = Chunks.octetsOf s (outcome.textPieces stderrLogged) := by
  rw [written, writeText_eq_deliver]
  simp only [deliver, Writer.write, Writer.start, List.nil_append, received_flushBoth]
  cases s <;> rfl

/-- A result is replayed. -/
theorem written_ok (done : Completed) (stderrLogged : Bool) :
    written (.ok done) stderrLogged .stdout = done.stdout ∧
      written (.ok done) stderrLogged .stderr = if stderrLogged then [] else done.stderr := by
  rw [written_eq, written_eq]
  cases stderrLogged <;> simp [textPieces, Chunks.octetsOf]

/-- The output of a program that ran to its end is replayed, whatever its exit code. -/
theorem written_ofExit (args : List String) (code : Int32) (out err : Bytes)
    (duration : Duration) (stderrLogged : Bool) :
    (ofExit args code out err duration).written stderrLogged .stdout = out := by
  unfold ofExit
  split
  · exact (written_ok _ stderrLogged).1
  · rw [written_eq]
    by_cases htail : err.tailLines shownLines = "" <;> simp [textPieces, htail, Chunks.octetsOf]

/-- The output before a timeout is replayed, and the report says no more to stderr than that there
    was one. -/
theorem written_timeout_eq (args : List String) (timeout : Duration) (out err : Bytes)
    (stderrLogged : Bool) :
    let outcome : Outcome := .error (.timeout args timeout out err)
    outcome.written stderrLogged .stdout = out ∧
      outcome.written stderrLogged .stderr = (if stderrLogged then [] else err) ++
        textLine s!"Error: {(RunError.timeout args timeout [] []).message}" := by
  intro outcome
  have hpieces : outcome.textPieces stderrLogged =
      ((.stdout, out) :: if stderrLogged then [] else [(.stderr, err)]) ++
        [(.stderr, textLine s!"Error: {(RunError.timeout args timeout [] []).message}")] := rfl
  rw [written_eq, written_eq, hpieces]
  cases stderrLogged <;> simp [Chunks.octetsOf]

/-- Of a timeout, the report says no more to stderr than that it was one. -/
theorem written_timeout (args : List String) (timeout : Duration) (out err : Bytes) :
    written (.error (.timeout args timeout out err)) true .stderr =
      textLine s!"Error: {(RunError.timeout args timeout [] []).message}" :=
  (written_timeout_eq args timeout out err true).2

end Outcome

/-! ### What does not depend on time -/

/-- A report apart from the time it tells. -/
def Report.untimed (r : Report) : Report := { r with durationMs := none }

namespace Outcome

theorem untimed_error (e : RunError) : untimed (.error e) = .error e := rfl

theorem exitStatus_untimed (o : Outcome) : o.untimed.exitStatus = o.exitStatus := by
  cases o with
  | ok done => simp only [untimed, exitStatus]
  | error e => rw [untimed_error]

theorem untimed_ofOutcome_untimed (o : Outcome) :
    (Report.ofOutcome o.untimed).untimed = (Report.ofOutcome o).untimed := by
  cases o with
  | ok done => simp only [untimed, Report.ofOutcome, Report.untimed]
  | error e => rw [untimed_error]

theorem textPieces_untimed (o : Outcome) (stderrLogged : Bool) :
    o.untimed.textPieces stderrLogged = o.textPieces stderrLogged := by
  cases o with
  | ok done => simp only [untimed, textPieces]
  | error e => rw [untimed_error]

theorem writeText_untimed (o : Outcome) (stderrLogged : Bool) (writers : Stream.Pair Writer) :
    o.untimed.writeText stderrLogged writers = o.writeText stderrLogged writers := by
  rw [writeText, writeText, textPieces_untimed]

/-- Outcomes that only a clock tells apart, with all that is reported of them. -/
structure Agrees (o o' : Outcome) : Prop where
  outcome : o.untimed = o'.untimed
  exitStatus : o.exitStatus = o'.exitStatus
  report : (Report.ofOutcome o).untimed = (Report.ofOutcome o').untimed
  text : ∀ stderrLogged writers,
    o.writeText stderrLogged writers = o'.writeText stderrLogged writers

theorem agrees_of_untimed {o o' : Outcome} (h : o.untimed = o'.untimed) : Agrees o o' where
  outcome := h
  exitStatus := by rw [← exitStatus_untimed o, h, exitStatus_untimed]
  report := by rw [← untimed_ofOutcome_untimed o, h, untimed_ofOutcome_untimed]
  text stderrLogged writers := by
    rw [← writeText_untimed o, h, writeText_untimed]

theorem untimed_ofExit (args : List String) (code : Int32) (out err : Bytes)
    (duration : Duration) :
    (ofExit args code out err duration).untimed = ofExit args code out err .zero := by
  unfold ofExit
  split <;> rfl

end Outcome

end Outflow
