import Outflow.Proofs.Drain.Event

/-!
# How output is cut does not matter

Two drains that read chunks of different sizes, or face schedules that divide output into
events differently, come to the same end (`run_recut`).  They do not read in step: the proof
compares them event by event, after all output of an event has been read.

The one thing that may differ is what has been recorded when a limit is passed, because the
limit is looked at once per chunk.
-/

namespace Outflow

namespace Drain

variable {n m : Nat} {deadline : Option Nat} {d : Drain} {s : Stream} {σ τ : Schedule}

/-! ### Coming to the same end -/

/-- Two runs came to the same end at the same time; unless that is a limit that was passed,
    they have captured and let out the same. -/
structure SameEnd (r r' : DrainEnd × Drain) : Prop where
  ending : r.1 = r'.1
  clock : r.2.clock = r'.2.clock
  record : (∀ o, r.1 ≠ .failed (.overflow o)) →
    r.2.captures = r'.2.captures ∧ r.2.trail = r'.2.trail

namespace SameEnd

theorem refl (r : DrainEnd × Drain) : SameEnd r r := ⟨rfl, rfl, fun _ => ⟨rfl, rfl⟩⟩

theorem symm {r r' : DrainEnd × Drain} (h : SameEnd r r') : SameEnd r' r where
  ending := h.ending.symm
  clock := h.clock.symm
  record hover :=
    have hrecord := h.record (h.ending ▸ hover)
    ⟨hrecord.1.symm, hrecord.2.symm⟩

theorem trans {r r' r'' : DrainEnd × Drain} (h : SameEnd r r') (h' : SameEnd r' r'') :
    SameEnd r r'' where
  ending := h.ending.trans h'.ending
  clock := h.clock.trans h'.clock
  record hover :=
    have hrecord := h.record hover
    have hrecord' := h'.record (h.ending ▸ hover)
    ⟨hrecord.1.trans hrecord'.1, hrecord.2.trans hrecord'.2⟩

end SameEnd

/-- What a drain still faces does not matter once it has come to its end. -/
theorem sameEnd_facing (ending : DrainEnd) (d : Drain) (σ τ : Schedule) :
    SameEnd (ending, d.facing σ) (ending, d.facing τ) := ⟨rfl, rfl, fun _ => ⟨rfl, rfl⟩⟩

theorem sameEnd_giveUp (d : Drain) (σ τ : Schedule) :
    SameEnd ((d.facing σ).giveUp deadline) ((d.facing τ).giveUp deadline) := by
  cases deadline <;> exact ⟨rfl, rfl, fun _ => ⟨rfl, rfl⟩⟩

/-- Once both streams have ended, what the drain faces does not matter. -/
theorem sameEnd_of_settled (h : d.settled = true) :
    SameEnd ((d.facing σ).run n deadline) ((d.facing τ).run m deadline) := by
  rw [run_settled (show (d.facing σ).settled = true from h),
    run_settled (show (d.facing τ).settled = true from h)]
  exact sameEnd_facing .ended d σ τ

/-- The same limit may be passed with different octets recorded. -/
theorem sameEnd_of_overflow {o : Overflow} {d d₁ d₂ : Drain} {r r' : DrainEnd × Drain}
    (h₁ : d₁.clock = d.clock) (hr : r = (.failed (.overflow o), d₁))
    (h₂ : d₂.clock = d.clock) (hr' : r' = (.failed (.overflow o), d₂)) : SameEnd r r' := by
  subst hr hr'
  exact ⟨rfl, h₁.trans h₂.symm, fun h => absurd rfl (h o)⟩

/-! ### One event -/

/-- After the same event two runs come to the same end, if they would from every drain. -/
theorem run_cons_sameEnd (e : Event)
    (h : ∀ d : Drain, SameEnd ((d.facing σ).run n deadline) ((d.facing τ).run m deadline))
    (d : Drain) :
    SameEnd ((d.facing (e :: σ)).run n deadline) ((d.facing (e :: τ)).run m deadline) := by
  cases hs : d.settled with
  | true => exact sameEnd_of_settled hs
  | false =>
    cases d.head e with
    | passed he ho =>
      rw [run_passed hs he ho, run_passed hs he ho]
      exact h d
    | @ends _ s he ho =>
      rw [run_end he ho, run_end he ho]
      exact h (d.close s)
    | @output s bytes ho hb hr =>
      rw [run_data ho hb hr, run_data ho hb hr]
      exact h (d.recorded s bytes)
    | overflow ho hb hr =>
      obtain ⟨d₁, hclock₁, hrun₁⟩ := run_data_overflow n deadline σ ho hb hr
      obtain ⟨d₂, hclock₂, hrun₂⟩ := run_data_overflow m deadline τ ho hb hr
      exact sameEnd_of_overflow hclock₁ hrun₁ hclock₂ hrun₂
    | fails ho =>
      rw [run_fail ho, run_fail ho]
      exact sameEnd_facing _ d _ _
    | @delay ms =>
      rw [run_delay hs, run_delay hs]
      split
      · exact h (d.later ms)
      · exact sameEnd_giveUp d _ _
    | stall =>
      rw [run_stall hs, run_stall hs]
      exact sameEnd_giveUp d _ _

/-- After the same events two runs come to the same end, if they would from every drain. -/
theorem run_append_sameEnd (before : Schedule)
    (h : ∀ d : Drain, SameEnd ((d.facing σ).run n deadline) ((d.facing τ).run m deadline))
    (d : Drain) :
    SameEnd ((d.facing (before ++ σ)).run n deadline)
      ((d.facing (before ++ τ)).run m deadline) := by
  induction before generalizing d with
  | nil => exact h d
  | cons e before ih => exact run_cons_sameEnd e ih d

/-! ### Chunk sizes -/

/-- **The chunk size does not matter.** -/
theorem run_chunkSize (n m : Nat) (deadline : Option Nat) (d : Drain) (σ : Schedule) :
    SameEnd ((d.facing σ).run n deadline) ((d.facing σ).run m deadline) := by
  induction σ generalizing d with
  | nil =>
    rw [run_nil, run_nil]
    exact SameEnd.refl _
  | cons e rest ih => exact run_cons_sameEnd e ih d

/-! ### Events -/

/-- Two adjacent output events of one stream are one. -/
theorem run_data_data (d : Drain) {xs ys : Bytes} (hx : xs ≠ []) (hy : ys ≠ []) :
    SameEnd ((d.facing (.data s (xs ++ ys) :: σ)).run n deadline)
      ((d.facing (.data s xs :: .data s ys :: σ)).run n deadline) := by
  have hxy : xs ++ ys ≠ [] := List.append_ne_nil_of_left_ne_nil hx ys
  cases hs : d.settled with
  | true => exact sameEnd_of_settled hs
  | false =>
    cases ho : d.opened.get s with
    | false =>
      rw [run_passed hs rfl ho, run_passed hs rfl ho, run_passed hs rfl ho]
      exact SameEnd.refl _
    | true =>
      cases hr : (d.captures.get s).refusal? (xs ++ ys) with
      | none =>
        -- Neither part is refused, and recording both is recording them joined.
        have hparts := hr
        rw [Capture.refusal?_append, Option.or_eq_none_iff] at hparts
        rw [run_data ho hxy hr, run_data ho hx hparts.1,
          run_data (d := d.recorded s xs) ho hy (by simpa using hparts.2), recorded_append]
        exact SameEnd.refl _
      | some o =>
        obtain ⟨d₁, hclock₁, hrun₁⟩ := run_data_overflow n deadline σ ho hxy hr
        -- One of the parts is refused; it passes the same limit.
        rw [Capture.refusal?_append] at hr
        cases hrx : (d.captures.get s).refusal? xs with
        | some o' =>
          rw [hrx, Option.some_or, Option.some.injEq] at hr
          subst hr
          obtain ⟨d₂, hclock₂, hrun₂⟩ :=
            run_data_overflow n deadline (.data s ys :: σ) ho hx hrx
          exact sameEnd_of_overflow hclock₁ hrun₁ hclock₂ hrun₂
        | none =>
          rw [hrx, Option.none_or] at hr
          rw [run_data ho hx hrx]
          obtain ⟨d₂, hclock₂, hrun₂⟩ :=
            run_data_overflow n deadline σ (d := d.recorded s xs) ho hy (by simpa using hr)
          exact sameEnd_of_overflow hclock₁ hrun₁ hclock₂ hrun₂

/-- **How a schedule divides output into events does not matter, nor does the chunk size.** -/
theorem run_recut (n m : Nat) (deadline : Option Nat) (d : Drain) (h : Schedule.Recut σ τ) :
    SameEnd ((d.facing σ).run n deadline) ((d.facing τ).run m deadline) := by
  -- The chunk size can be changed at the end, so the schedules are compared at one of them.
  refine SameEnd.trans ?_ (run_chunkSize n m deadline d τ)
  induction h with
  | rel σ τ hsplit =>
    obtain ⟨before, after, s, xs, ys, hx, hy⟩ := hsplit
    exact run_append_sameEnd before (fun d => run_data_data d hx hy) d
  | refl σ => exact SameEnd.refl _
  | symm σ τ _ ih => exact ih.symm
  | trans ρ σ τ _ _ ih ih' => exact ih.trans ih'

end Drain

end Outflow
