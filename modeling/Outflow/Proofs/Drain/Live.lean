import Outflow.Proofs.Drain.Event

/-!
# What forwarding lines changes

A drain that forwards no lines (`Drain.muted`) looks at its streams exactly as one that does, and
comes to the same end with the same captures (`run_muted`): the lines are put together beside what
is captured, and nothing looks at them.

The other way round, the lines depend on what has been read and not on how much of it a limit lets
a capture keep (`run_sameLines`).
-/

namespace Outflow

namespace Emission

/-- Some emissions without the lines among them. -/
def withoutLines (es : List Emission) : List Emission := (logs es).map .log

@[simp] theorem withoutLines_append (es fs : List Emission) :
    withoutLines (es ++ fs) = withoutLines es ++ withoutLines fs := by
  simp [withoutLines]

@[simp] theorem lines_withoutLines (es : List Emission) : lines (withoutLines es) = [] := by
  simp [lines, withoutLines]

@[simp] theorem logs_withoutLines (es : List Emission) : logs (withoutLines es) = logs es := by
  simp [logs, withoutLines, List.filterMap_filterMap]

end Emission

namespace Capture

/-- The capture, forwarding no lines. -/
def muted (c : Capture) : Capture := { c with lines := none }

theorem withoutLines_completed (c : Capture) (chunk : Bytes) :
    Emission.withoutLines (c.completed chunk) = c.muted.completed chunk := by
  rw [Emission.withoutLines, logs_completed]
  rfl

theorem withoutLines_finish (c : Capture) :
    Emission.withoutLines c.finish.2 = c.muted.finish.2 := by
  have hnote : (Emission.logs c.lossNote).map .log = c.lossNote := by
    unfold lossNote
    split <;> rfl
  -- The word about the limit is all that is left, and it does not depend on the lines.
  rw [Emission.withoutLines, logs_finish, hnote]
  rfl

theorem lines_finish (c : Capture) : Emission.lines c.finish.2 = Emission.lines c.lastLine := by
  have hnote : Emission.lines c.lossNote = [] := by
    unfold lossNote
    split <;> rfl
  rw [finish, Emission.lines_append, hnote, List.append_nil]

end Capture

namespace Step

/-- The same look at another drain. -/
def map (f : Drain → Drain) : Step → Step
  | ended => .ended
  | advanced next => .advanced (f next)
  | waiting ms next => .waiting ms (f next)
  | stalled => .stalled
  | failed error left => .failed error (f left)

end Step

namespace Drain

variable {n : Nat} {deadline : Option Nat} {d d' : Drain}

/-! ### Without lines -/

/-- The drain, forwarding no lines and never having forwarded any. -/
def muted (d : Drain) : Drain :=
  { d with
    captures := ⟨d.captures.stdout.muted, d.captures.stderr.muted⟩
    trail := .ofList (Emission.withoutLines d.emitted) }

@[simp] theorem capture_muted (d : Drain) (s : Stream) :
    d.muted.captures.get s = (d.captures.get s).muted := by
  cases s <;> rfl

@[simp] theorem emitted_muted (d : Drain) :
    d.muted.emitted = Emission.withoutLines d.emitted := Trail.toList_ofList _

theorem muted_close (d : Drain) (s : Stream) : (d.close s).muted = d.muted.close s := by
  have htrail : Trail.ofList (Emission.withoutLines (d.close s).emitted) =
      d.muted.trail.append (d.captures.get s).muted.finish.2 := by
    apply Trail.ext_toList
    rw [Trail.toList_append, Trail.toList_ofList, emitted_close, Emission.withoutLines_append,
      Capture.withoutLines_finish, ← emitted_muted]
    rfl
  rw [muted, htrail]
  cases s <;> rfl

theorem muted_recorded (d : Drain) (s : Stream) (chunk : Bytes) :
    (d.recorded s chunk).muted = d.muted.recorded s chunk := by
  have htrail : Trail.ofList (Emission.withoutLines (d.recorded s chunk).emitted) =
      d.muted.trail.append ((d.captures.get s).muted.completed chunk) := by
    apply Trail.ext_toList
    rw [Trail.toList_append, Trail.toList_ofList, emitted_recorded, Emission.withoutLines_append,
      Capture.withoutLines_completed, ← emitted_muted]
    rfl
  rw [muted, htrail]
  cases s <;> rfl

theorem read_muted (d : Drain) (s : Stream) (chunk more : Bytes) (rest : Schedule) :
    d.muted.read s chunk more rest = (d.read s chunk more rest).map muted := by
  have hrefusal : (d.muted.captures.get s).refusal? chunk = (d.captures.get s).refusal? chunk := by
    rw [capture_muted]
    rfl
  simp only [read, record_eq, hrefusal]
  cases (d.captures.get s).refusal? chunk with
  | some o => rfl
  | none =>
    have hrecorded := muted_recorded (d.facing (if more = [] then rest else .data s more :: rest))
      s chunk
    exact congrArg Step.advanced hrecorded.symm

/-- A look at the streams does not depend on the lines. -/
theorem step_muted (n : Nat) (d : Drain) : d.muted.step n = (d.step n).map muted := by
  have hpass : ∀ rest : Schedule, (Step.advanced { d with pending := rest }).map muted =
      .advanced (d.muted.facing rest) := fun _ => rfl
  have hclose : ∀ (rest : Schedule) (s : Stream),
      (Step.advanced ({ d with pending := rest }.close s)).map muted =
        .advanced ((d.muted.facing rest).close s) :=
    fun rest s => congrArg Step.advanced (muted_close { d with pending := rest } s)
  have hopened : d.muted.opened = d.opened := rfl
  have hpending : d.muted.pending = d.pending := rfl
  -- Both look at the same event; only what they do to a stream has to be compared.
  simp only [step, hopened, hpending, apply_ite (Step.map muted)]
  congr 1
  cases d.pending with
  | nil => exact (hclose d.pending _).symm
  | cons e rest =>
    cases e with
    | data s bytes =>
      simp only [apply_ite (Step.map muted), hpass, hclose, ← read_muted]
      rfl
    | eof s =>
      simp only [apply_ite (Step.map muted), hpass, hclose]
      rfl
    | fail s error =>
      simp only [apply_ite (Step.map muted), hpass]
      rfl
    | delay ms => rfl
    | stall => rfl

/-- **A drain that forwards no lines takes the same course.** -/
theorem run_muted (n : Nat) (deadline : Option Nat) (d : Drain) :
    d.muted.run n deadline = ((d.run n deadline).1, (d.run n deadline).2.muted) := by
  have hgiveUp : ∀ d : Drain, d.muted.giveUp deadline =
      ((d.giveUp deadline).1, (d.giveUp deadline).2.muted) := by
    intro d
    cases deadline <;> rfl
  induction d using Drain.run.induct_unfolding n deadline with
  | case1 d hstep => rw [run_eq, step_muted, hstep, Step.map]
  | case2 d error left hstep => rw [run_eq, step_muted, hstep, Step.map]
  | case3 d hstep =>
    rw [run_eq, step_muted, hstep, Step.map]
    exact hgiveUp d
  | case4 d next hstep ih =>
    rw [run_eq, step_muted, hstep, Step.map]
    exact ih
  | case5 d ms next hstep hnext ih =>
    rw [run_eq, step_muted, hstep, Step.map]
    exact (if_pos hnext).trans ih
  | case6 d ms next hstep hnext =>
    rw [run_eq, step_muted, hstep, Step.map]
    exact (if_neg hnext).trans (hgiveUp d)

/-! ### The same lines -/

/-- Two drains have the same streams open at the same time, and have come equally far with their
    lines. -/
structure SameLines (d d' : Drain) : Prop where
  opened : d.opened = d'.opened
  clock : d.clock = d'.clock
  source : ∀ s, (d.captures.get s).source = (d'.captures.get s).source
  buffer : ∀ s, (d.captures.get s).lines = (d'.captures.get s).lines
  lines : Emission.lines d.emitted = Emission.lines d'.emitted

namespace SameLines

theorem close (h : SameLines d d') (s : Stream) : SameLines (d.close s) (d'.close s) where
  opened := congrArg (·.set s false) h.opened
  clock := h.clock
  source t := by
    by_cases ht : t = s
    · subst ht
      simpa [Capture.finish] using h.source t
    · simpa [capture_close_of_ne _ ht] using h.source t
  buffer t := by
    by_cases ht : t = s
    · subst ht
      simp [Capture.finish, h.buffer]
    · simpa [capture_close_of_ne _ ht] using h.buffer t
  lines := by
    rw [emitted_close, emitted_close, Emission.lines_append, Emission.lines_append, h.lines,
      Capture.lines_finish, Capture.lines_finish, Capture.lastLine, Capture.lastLine, h.buffer,
      h.source]

theorem recorded (h : SameLines d d') (s : Stream) (chunk : Bytes) :
    SameLines (d.recorded s chunk) (d'.recorded s chunk) where
  opened := h.opened
  clock := h.clock
  source t := by
    by_cases ht : t = s
    · subst ht
      simpa using h.source t
    · simpa [capture_recorded_of_ne _ _ ht] using h.source t
  buffer t := by
    by_cases ht : t = s
    · subst ht
      simp [Capture.recorded, h.buffer]
    · simpa [capture_recorded_of_ne _ _ ht] using h.buffer t
  lines := by
    rw [emitted_recorded, emitted_recorded, Emission.lines_append, Emission.lines_append, h.lines,
      Capture.completed, Capture.completed, h.buffer, h.source]

theorem closeOpen (h : SameLines d d') (s : Stream) :
    SameLines (d.closeOpen s) (d'.closeOpen s) := by
  unfold Drain.closeOpen
  rw [h.opened]
  split
  · exact h.close s
  · exact h

theorem later (h : SameLines d d') (ms : Nat) : SameLines (d.later ms) (d'.later ms) :=
  { h with clock := congrArg (· + ms) h.clock }

theorem giveUp (h : SameLines d d') (deadline : Option Nat) (σ : Schedule) :
    Emission.lines ((d.facing σ).giveUp deadline).2.emitted =
      Emission.lines ((d'.facing σ).giveUp deadline).2.emitted := by
  cases deadline <;> exact h.lines

end SameLines

/-- **The lines do not depend on what the captures keep,** nor on which limits they have, unless
    one is passed. -/
theorem run_sameLines (n : Nat) (deadline : Option Nat) (σ : Schedule) (h : SameLines d d')
    (hover : ∀ o, ((d.facing σ).run n deadline).1 ≠ .failed (.overflow o))
    (hover' : ∀ o, ((d'.facing σ).run n deadline).1 ≠ .failed (.overflow o)) :
    Emission.lines ((d.facing σ).run n deadline).2.emitted =
      Emission.lines ((d'.facing σ).run n deadline).2.emitted := by
  -- By induction on what is still to come.  The same streams are open, so an event is the same to
  -- both drains, unless only one of them refuses it; but neither run ends with an overflow.
  induction σ generalizing d d' with
  | nil =>
    rw [run_nil, run_nil]
    exact ((h.closeOpen .stdout).closeOpen .stderr).lines
  | cons e rest ih =>
    have hsettled : d'.settled = d.settled := by rw [settled, settled, h.opened]
    cases hs : d.settled with
    | true =>
      rw [run_settled (by exact hs), run_settled (by exact hsettled.trans hs)]
      exact h.lines
    | false =>
      have hs' : d'.settled = false := hsettled.trans hs
      cases d.head e with
      | @passed _ s he ho =>
        have ho' : d'.opened.get s = false := h.opened ▸ ho
        rw [run_passed hs he ho] at hover ⊢
        rw [run_passed hs' he ho'] at hover' ⊢
        exact ih h hover hover'
      | @ends _ s he ho =>
        have ho' : d'.opened.get s = true := h.opened ▸ ho
        rw [run_end he ho] at hover ⊢
        rw [run_end he ho'] at hover' ⊢
        exact ih (h.close s) hover hover'
      | @output s bytes ho hb hr =>
        have ho' : d'.opened.get s = true := h.opened ▸ ho
        cases hr' : (d'.captures.get s).refusal? bytes with
        | none =>
          rw [run_data ho hb hr] at hover ⊢
          rw [run_data ho' hb hr'] at hover' ⊢
          exact ih (h.recorded s bytes) hover hover'
        | some o =>
          obtain ⟨d₁, -, hrun⟩ := run_data_overflow n deadline rest ho' hb hr'
          exact absurd (congrArg Prod.fst hrun) (hover' o)
      | overflow ho hb hr =>
        obtain ⟨d₁, -, hrun⟩ := run_data_overflow n deadline rest ho hb hr
        exact absurd (congrArg Prod.fst hrun) (hover _)
      | @fails s error ho =>
        have ho' : d'.opened.get s = true := h.opened ▸ ho
        rw [run_fail ho, run_fail ho']
        exact h.lines
      | @delay ms =>
        rw [run_delay hs] at hover ⊢
        rw [run_delay hs', ← h.clock] at hover' ⊢
        by_cases ht : within deadline (d.clock + ms) = true
        · simp only [ht, if_true] at hover hover' ⊢
          exact ih (h.later ms) hover hover'
        · simp only [ht]
          exact h.giveUp deadline _
      | stall =>
        rw [run_stall hs, run_stall hs']
        exact h.giveUp deadline _

end Drain

end Outflow
