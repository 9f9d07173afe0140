import Outflow.Drain
import Outflow.Proofs.Capture
import Outflow.Proofs.Schedule

/-!
# A drain, event by event

`Drain.run` looks at the streams once per chunk.  Here it is described once per event of the
schedule: one equation for each thing that the head of the schedule can be and for whether
its stream is still open.  The chunk size occurs in none of the equations, and after them
nothing about a whole run needs the definition of `Drain.step`.

A drain is taken apart into what it has done and the schedule that it faces
(`Drain.facing`), so that proofs go by induction on the schedule.
-/

namespace Outflow

namespace Drain

variable {n : Nat} {deadline : Option Nat} {d : Drain} {s : Stream} {rest : Schedule}

/-! ### Parts of a step -/

/-- The same drain with another schedule ahead of it. -/
def facing (d : Drain) (schedule : Schedule) : Drain := { d with pending := schedule }

/-- The drain after a chunk of a stream that its limit does not refuse. -/
def recorded (d : Drain) (s : Stream) (chunk : Bytes) : Drain :=
  { d with
    captures := d.captures.set s ((d.captures.get s).recorded chunk)
    trail := d.trail.append ((d.captures.get s).completed chunk) }

/-- The drain some milliseconds later. -/
def later (d : Drain) (ms : Nat) : Drain := { d with clock := d.clock + ms }

/-- Close a stream unless it is closed. -/
def closeOpen (d : Drain) (s : Stream) : Drain := if d.opened.get s then d.close s else d

/-- Close what is open, standard output first. -/
def closeAll (d : Drain) : Drain := (d.closeOpen .stdout).closeOpen .stderr

/-- Both streams have ended. -/
def settled (d : Drain) : Bool := !d.opened.stdout && !d.opened.stderr

@[simp] theorem facing_pending (d : Drain) : d.facing d.pending = d := rfl

@[simp] theorem opened_recorded (d : Drain) (chunk : Bytes) :
    (d.recorded s chunk).opened = d.opened := rfl

@[simp] theorem clock_recorded (d : Drain) (chunk : Bytes) :
    (d.recorded s chunk).clock = d.clock := rfl

@[simp] theorem clock_close (d : Drain) : (d.close s).clock = d.clock := rfl

/-- **What recording a chunk does to a drain.**  If the limit refuses the chunk, the drain is left
    as it was. -/
theorem record_eq (d : Drain) (s : Stream) (chunk : Bytes) :
    d.record s chunk =
      match (d.captures.get s).refusal? chunk with
      | some o => (d, .error o)
      | none => (d.recorded s chunk, .ok ()) := by
  rw [record, Capture.record_eq]
  cases (d.captures.get s).refusal? chunk with
  | some o => simp only [Stream.Pair.set_get_self, Trail.append_nil]
  | none => rfl

@[simp] theorem capture_recorded (d : Drain) (chunk : Bytes) :
    (d.recorded s chunk).captures.get s = (d.captures.get s).recorded chunk :=
  Stream.Pair.get_set_self _ _ _

theorem capture_recorded_of_ne {t : Stream} (d : Drain) (chunk : Bytes) (h : s ≠ t) :
    (d.recorded t chunk).captures.get s = d.captures.get s := Stream.Pair.get_set_of_ne _ _ h

theorem emitted_recorded (d : Drain) (chunk : Bytes) :
    (d.recorded s chunk).emitted = d.emitted ++ (d.captures.get s).completed chunk :=
  Trail.toList_append _ _

@[simp] theorem opened_close (d : Drain) : (d.close s).opened.get s = false :=
  Stream.Pair.get_set_self _ _ _

theorem opened_close_of_ne {t : Stream} (d : Drain) (h : s ≠ t) :
    (d.close t).opened.get s = d.opened.get s := Stream.Pair.get_set_of_ne _ _ h

@[simp] theorem capture_close (d : Drain) :
    (d.close s).captures.get s = (d.captures.get s).finish.1 := Stream.Pair.get_set_self _ _ _

theorem capture_close_of_ne {t : Stream} (d : Drain) (h : s ≠ t) :
    (d.close t).captures.get s = d.captures.get s := Stream.Pair.get_set_of_ne _ _ h

theorem emitted_close (d : Drain) :
    (d.close s).emitted = d.emitted ++ (d.captures.get s).finish.2 := Trail.toList_append _ _

theorem recorded_append (d : Drain) (xs ys : Bytes) :
    d.recorded s (xs ++ ys) = (d.recorded s xs).recorded s ys := by
  cases s <;>
    simp [recorded, Stream.Pair.get, Stream.Pair.set, Capture.recorded_append,
      Capture.completed_append, Trail.append_append]

theorem settled_eq_false (h : d.opened.get s = true) : d.settled = false := by
  cases s <;> simp_all [settled, Stream.Pair.get]

theorem settled_iff : d.settled = true ↔ ∀ s, d.opened.get s = false := by
  constructor
  · intro h s
    cases s <;> simp_all [settled, Stream.Pair.get]
  · intro h
    have hout := h .stdout
    have herr := h .stderr
    simp_all [settled, Stream.Pair.get]

/-- A drain that has not settled has an open stream. -/
theorem exists_opened (h : d.settled = false) : ∃ s, d.opened.get s = true := by
  by_contra hall
  have hsettled := settled_iff.2 fun s => Bool.eq_false_iff.2 fun ho => hall ⟨s, ho⟩
  rw [h] at hsettled
  contradiction

@[simp] theorem settled_closeAll (d : Drain) : d.closeAll.settled = true := by
  obtain ⟨captures, ⟨out, err⟩, pending, clock, trail⟩ := d
  cases out <;> cases err <;> rfl

/-! ### The head of a schedule -/

/-- What an event can be to a drain that is still reading. -/
inductive Head (d : Drain) : Event → Prop where
  /-- It is about a stream that has ended. -/
  | passed {e : Event} {s : Stream} (he : e.stream? = some s) (ho : d.opened.get s = false) :
    Head d e
  | ends {e : Event} {s : Stream} (he : e = .eof s ∨ e = .data s []) (ho : d.opened.get s = true) :
    Head d e
  | output {s : Stream} {bytes : Bytes} (ho : d.opened.get s = true) (hb : bytes ≠ [])
    (hr : (d.captures.get s).refusal? bytes = none) : Head d (.data s bytes)
  | overflow {s : Stream} {bytes : Bytes} {o : Overflow} (ho : d.opened.get s = true)
    (hb : bytes ≠ []) (hr : (d.captures.get s).refusal? bytes = some o) : Head d (.data s bytes)
  | fails {s : Stream} {error : IoError} (ho : d.opened.get s = true) : Head d (.fail s error)
  | delay {ms : Nat} : Head d (.delay ms)
  | stall : Head d .stall

theorem head (d : Drain) (e : Event) : d.Head e := by
  cases he : e.stream? with
  | none =>
    cases e with
    | delay ms => exact .delay
    | stall => exact .stall
    | _ => contradiction
  | some s =>
    cases ho : d.opened.get s with
    | false => exact .passed he ho
    | true =>
      cases e with
      | data t bytes =>
        obtain rfl : t = s := Option.some.inj he
        by_cases hb : bytes = []
        · subst hb
          exact .ends (.inr rfl) ho
        cases hr : (d.captures.get t).refusal? bytes with
        | none => exact .output ho hb hr
        | some o => exact .overflow ho hb hr
      | eof t =>
        obtain rfl : t = s := Option.some.inj he
        exact .ends (.inl rfl) ho
      | fail t error =>
        obtain rfl : t = s := Option.some.inj he
        exact .fails ho
      | delay ms => contradiction
      | stall => contradiction

/-! ### Running -/

/-- `run`, by what the next step gives. -/
theorem run_eq (n : Nat) (deadline : Option Nat) (d : Drain) :
    d.run n deadline =
      match d.step n with
      | .ended => (.ended, d)
      | .failed error left => (.failed error, left)
      | .stalled => d.giveUp deadline
      | .advanced next => next.run n deadline
      | .waiting _ next =>
        if within deadline next.clock then next.run n deadline else d.giveUp deadline := by
  rw [run]
  split <;> simp only [*]

/-- A drain that has not settled looks at its schedule. -/
private theorem reads (σ : Schedule) (h : d.settled = false) :
    ¬ (!(d.facing σ).opened.stdout && !(d.facing σ).opened.stderr) = true := by
  rw [Bool.not_eq_true]
  exact h

/-- Nothing more is read once both streams have ended. -/
theorem run_settled (h : d.settled = true) : d.run n deadline = (.ended, d) := by
  have hstep : d.step n = .ended := if_pos h
  rw [run_eq, hstep]

/-- An event of a stream that has ended is passed over. -/
theorem run_passed {e : Event} (hs : d.settled = false) (he : e.stream? = some s)
    (ho : d.opened.get s = false) :
    (d.facing (e :: rest)).run n deadline = (d.facing rest).run n deadline := by
  have hstep : (d.facing (e :: rest)).step n = .advanced (d.facing rest) := by
    rw [step, if_neg (reads _ hs)]
    cases e <;> simp_all [Event.stream?, facing]
  rw [run_eq, hstep]

/-- The end of a stream, seen as such or as a read of nothing. -/
theorem run_end {e : Event} (he : e = .eof s ∨ e = .data s []) (ho : d.opened.get s = true) :
    (d.facing (e :: rest)).run n deadline = ((d.close s).facing rest).run n deadline := by
  have hstep : (d.facing (e :: rest)).step n = .advanced ((d.close s).facing rest) := by
    rw [step, if_neg (reads _ (settled_eq_false ho))]
    obtain rfl | rfl := he <;> simp [facing, ho, close]
  rw [run_eq, hstep]

/-- A stream that fails ends the run. -/
theorem run_fail {error : IoError} (ho : d.opened.get s = true) :
    (d.facing (.fail s error :: rest)).run n deadline =
      (.failed (.read s error), d.facing (.fail s error :: rest)) := by
  have hstep : (d.facing (.fail s error :: rest)).step n =
      .failed (.read s error) (d.facing (.fail s error :: rest)) := by
    rw [step, if_neg (reads _ (settled_eq_false ho))]
    simp [facing, ho]
  rw [run_eq, hstep]

/-- A time in which nothing is readable passes, or the deadline comes first. -/
theorem run_delay {ms : Nat} (hs : d.settled = false) :
    (d.facing (.delay ms :: rest)).run n deadline =
      if within deadline (d.clock + ms) then ((d.later ms).facing rest).run n deadline
      else (d.facing (.delay ms :: rest)).giveUp deadline := by
  have hstep : (d.facing (.delay ms :: rest)).step n = .waiting ms ((d.later ms).facing rest) := by
    rw [step, if_neg (reads _ hs)]
    simp [facing, later]
  rw [run_eq, hstep]
  rfl

theorem run_stall (hs : d.settled = false) :
    (d.facing (.stall :: rest)).run n deadline =
      (d.facing (.stall :: rest)).giveUp deadline := by
  have hstep : (d.facing (.stall :: rest)).step n = .stalled := by
    rw [step, if_neg (reads _ hs)]
    simp [facing]
  rw [run_eq, hstep]

/-- With nothing left to come, what is open is closed. -/
theorem run_nil (d : Drain) : (d.facing []).run n deadline = (.ended, d.closeAll.facing []) := by
  have hstep : ∀ d : Drain, d.settled = false → (d.facing []).run n deadline =
      ((d.close (if d.opened.stdout then .stdout else .stderr)).facing []).run n deadline := by
    intro d hs
    rw [run_eq, step, if_neg (reads _ hs)]
    rfl
  obtain ⟨captures, ⟨out, err⟩, pending, clock, trail⟩ := d
  -- Each open stream takes one step, and after them the run has settled.
  cases out <;> cases err
  · exact run_settled rfl
  · rw [hstep _ rfl]; exact run_settled rfl
  · rw [hstep _ rfl]; exact run_settled rfl
  · rw [hstep _ rfl, hstep _ rfl]; exact run_settled rfl

/-- One read of a stream that has output. -/
private theorem step_data {bytes : Bytes} (ho : d.opened.get s = true) (hb : bytes ≠ []) :
    (d.facing (.data s bytes :: rest)).step n =
      match (d.captures.get s).refusal? (bytes.take (max n 1)) with
      | some o => .failed (.overflow o) (d.facing (.data s bytes :: rest))
      | none =>
        .advanced ((d.recorded s (bytes.take (max n 1))).facing
          (if bytes.drop (max n 1) = [] then rest
            else .data s (bytes.drop (max n 1)) :: rest)) := by
  rw [step, if_neg (reads _ (settled_eq_false ho))]
  simp only [facing, ho, hb, Bool.not_true, Bool.false_eq_true, if_false, read, record_eq]
  cases (d.captures.get s).refusal? (bytes.take (max n 1)) <;> rfl

/-- **All output of an event is recorded before anything else happens.** -/
theorem run_data {bytes : Bytes} (ho : d.opened.get s = true) (hb : bytes ≠ [])
    (hr : (d.captures.get s).refusal? bytes = none) :
    (d.facing (.data s bytes :: rest)).run n deadline =
      ((d.recorded s bytes).facing rest).run n deadline := by
  -- By induction on how much output is left; a read takes some of it at least.
  induction hlen : bytes.length using Nat.strong_induction_on generalizing d bytes with
  | _ len ih =>
    have hcut : bytes.take (max n 1) ++ bytes.drop (max n 1) = bytes := List.take_append_drop _ _
    rw [← hcut, Capture.refusal?_append, Option.or_eq_none_iff] at hr
    rw [run_eq, step_data ho hb, hr.1]
    by_cases hmore : bytes.drop (max n 1) = []
    · rw [hmore, List.append_nil] at hcut
      simp only [hmore, if_true, hcut]
    · simp only [hmore, if_false]
      have hpos : 0 < bytes.length := List.length_pos_iff.2 hb
      rw [ih (bytes.drop (max n 1)).length (by rw [List.length_drop]; omega)
        (d := d.recorded s (bytes.take (max n 1))) ho hmore (by simpa using hr.2) rfl,
        ← recorded_append, hcut]

/-- Output that the limit refuses ends the run, at whichever read passes the limit. -/
theorem run_data_overflow (n : Nat) (deadline : Option Nat) (rest : Schedule) {bytes : Bytes}
    {o : Overflow} (ho : d.opened.get s = true) (hb : bytes ≠ [])
    (hr : (d.captures.get s).refusal? bytes = some o) :
    ∃ d' : Drain, d'.clock = d.clock ∧
      (d.facing (.data s bytes :: rest)).run n deadline = (.failed (.overflow o), d') := by
  induction hlen : bytes.length using Nat.strong_induction_on generalizing d bytes with
  | _ len ih =>
    have hcut : bytes.take (max n 1) ++ bytes.drop (max n 1) = bytes := List.take_append_drop _ _
    rw [← hcut, Capture.refusal?_append] at hr
    rw [run_eq, step_data ho hb]
    cases hx : (d.captures.get s).refusal? (bytes.take (max n 1)) with
    | some o' =>
      rw [hx, Option.some_or, Option.some.injEq] at hr
      subst hr
      exact ⟨d.facing (.data s bytes :: rest), rfl, rfl⟩
    | none =>
      rw [hx, Option.none_or] at hr
      by_cases hmore : bytes.drop (max n 1) = []
      · -- Nothing is left that could be refused.
        rw [hmore, Capture.refusal?_nil (Capture.fits_recorded _ _)] at hr
        contradiction
      · simp only [hmore, if_false]
        have hpos : 0 < bytes.length := List.length_pos_iff.2 hb
        exact ih (bytes.drop (max n 1)).length (by rw [List.length_drop]; omega)
          (d := d.recorded s (bytes.take (max n 1))) ho hmore (by simpa using hr) rfl

/-- Only a run without a deadline hangs. -/
theorem deadline_of_run_hung {σ : Schedule} (h : ((d.facing σ).run n deadline).1 = .hung) :
    deadline = none := by
  have hgiveUp : ∀ d : Drain, (d.giveUp deadline).1 = .hung → deadline = none := by
    intro d h
    cases deadline with
    | none => rfl
    | some t => contradiction
  induction σ generalizing d with
  | nil =>
    rw [run_nil] at h
    contradiction
  | cons e rest ih =>
    cases hs : d.settled with
    | true =>
      rw [run_settled (by exact hs)] at h
      contradiction
    | false =>
      cases d.head e with
      | passed he ho =>
        rw [run_passed hs he ho] at h
        exact ih h
      | ends he ho =>
        rw [run_end he ho] at h
        exact ih h
      | output ho hb hr =>
        rw [run_data ho hb hr] at h
        exact ih h
      | overflow ho hb hr =>
        obtain ⟨d', -, hrun⟩ := run_data_overflow n deadline rest ho hb hr
        rw [hrun] at h
        contradiction
      | fails ho =>
        rw [run_fail ho] at h
        contradiction
      | delay =>
        rw [run_delay hs] at h
        split at h
        · exact ih h
        · exact hgiveUp _ h
      | stall =>
        rw [run_stall hs] at h
        exact hgiveUp _ h

end Drain

end Outflow
