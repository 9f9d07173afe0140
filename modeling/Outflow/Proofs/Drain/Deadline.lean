import Outflow.Proofs.Drain.Step
import Outflow.Proofs.Schedule.Course

/-!
# Drains with different deadlines

A drain that comes to its end before a deadline comes to the same end with any later one.  A
drain that does not is cut off, and the one with the later deadline goes on from there
(`run_later`); so it has let out all that the other one has, and captured all of it if there is
no limit.

Where nothing takes time, the deadline does not matter at all (`run_immediate`).
-/

namespace Outflow

namespace Drain

open Schedule

variable {n : Nat} {deadline : Option Nat} {time : Nat} {d : Drain}

/-! ### A later deadline -/

/-- **What a later deadline changes:** nothing, or the drain goes on from where the earlier
    deadline cut it off. -/
theorem run_later (n : Nat) (d : Drain) (h : within deadline time = true) :
    d.run n deadline = d.run n (some time) ∨
      ∃ cut : Drain, d.run n (some time) = (.timedOut, { cut with clock := time }) ∧
        d.run n deadline = cut.run n deadline := by
  -- Both drains look at the same streams until one of them does not wait any longer.
  induction d using Drain.run.induct_unfolding n (some time) with
  | case1 d hstep =>
    left
    rw [run_eq, hstep]
  | case2 d error left hstep =>
    left
    rw [run_eq, hstep]
  | case3 d hstep => exact .inr ⟨d, rfl, rfl⟩
  | case4 d next hstep ih =>
    rw [run_eq n deadline d, hstep]
    exact ih
  | case5 d ms next hstep hnext ih =>
    have hwithin : within deadline next.clock = true :=
      within_of_le h (by simpa [within] using hnext)
    have hrun : d.run n deadline = next.run n deadline := by
      rw [run_eq, hstep]
      exact if_pos hwithin
    rw [hrun]
    exact ih
  | case6 d ms next hstep hnext => exact .inr ⟨d, rfl, rfl⟩

theorem run_of_not_timedOut (h : within deadline time = true)
    (hend : (d.run n (some time)).1 ≠ .timedOut) : d.run n deadline = d.run n (some time) := by
  obtain hsame | ⟨cut, hcut, -⟩ := run_later n d h
  · exact hsame
  · rw [hcut] at hend
    exact absurd rfl hend

theorem emitted_prefix_later (n : Nat) (d : Drain) (h : within deadline time = true) :
    (d.run n (some time)).2.emitted <+: (d.run n deadline).2.emitted := by
  obtain hsame | ⟨cut, hcut, hrun⟩ := run_later n d h
  · exact hsame ▸ List.prefix_refl _
  · rw [hcut, hrun]
    exact emitted_prefix_run n deadline cut

theorem bytes_prefix_later (n : Nat) (h : within deadline time = true)
    (hlimit : ∀ s, (d.captures.get s).limit = none) (s : Stream) :
    ((d.run n (some time)).2.captures.get s).bytes <+:
      ((d.run n deadline).2.captures.get s).bytes := by
  obtain hsame | ⟨cut, hcut, hrun⟩ := run_later n d h
  · exact hsame ▸ List.prefix_refl _
  · -- The drain that was cut off had no limit either.
    have hkept := (stable_bytes fun _ => []).run n (some time)
      fun s => ⟨hlimit s, List.nil_prefix⟩
    rw [hcut] at hkept
    rw [hcut, hrun]
    exact bytes_prefix_run (d := cut) n deadline (fun s => (hkept s).1) s

/-- Without a deadline no run times out. -/
theorem ne_timedOut_of_run_none (n : Nat) (d : Drain) : (d.run n none).1 ≠ .timedOut := by
  induction d using Drain.run.induct_unfolding n none with
  | case1 d hstep => simp
  | case2 d error left hstep => simp
  | case3 d hstep => simp [giveUp]
  | case4 d next hstep ih => exact ih
  | case5 d ms next hstep hnext ih => exact ih
  | case6 d ms next hstep hnext => simp [giveUp]

/-! ### Where nothing takes time -/

/-- Nothing that a drain faces takes time. -/
def Immediate (d : Drain) : Prop := ∀ e ∈ d.pending, e.stream? ≠ none

theorem Immediate.advanced {next : Drain} (hd : d.Immediate) (h : d.step n = .advanced next) :
    next.Immediate ∧ next.clock = d.clock := by
  have hlook := look n d
  rw [h] at hlook
  cases hlook with
  | runsOut hp ho => exact ⟨hd, rfl⟩
  | passed hp he ho => exact ⟨fun e he => hd e (hp ▸ .tail _ he), rfl⟩
  | ends hp he ho => exact ⟨fun e he => hd e (hp ▸ .tail _ he), rfl⟩
  | @output s bytes rest hp ho hb hr =>
    refine ⟨fun e he => ?_, rfl⟩
    have hrest : ∀ e ∈ rest, e.stream? ≠ none := fun e he => hd e (hp ▸ .tail _ he)
    simp only [facing] at he
    split at he
    · exact hrest e he
    · cases he with
      | head => simp [Event.stream?]
      | tail _ he => exact hrest e he

/-- It never waits. -/
theorem Immediate.ne_waiting (hd : d.Immediate) :
    d.step n ≠ .stalled ∧ ∀ ms next, d.step n ≠ .waiting ms next := by
  have hlook := look n d
  constructor
  · intro hstep
    rw [hstep] at hlook
    cases hlook with
    | @stall rest hp hs => exact hd .stall (by simp [hp]) rfl
  · intro ms next hstep
    rw [hstep] at hlook
    cases hlook with
    | @delay _ rest hp hs => exact hd (.delay ms) (by simp [hp]) rfl

/-- **Where nothing takes time, the deadline does not matter.** -/
theorem run_immediate (n : Nat) (deadline : Option Nat) (hd : d.Immediate) :
    d.run n none = d.run n deadline ∧ (d.run n deadline).2.clock = d.clock := by
  induction d using Drain.run.induct_unfolding n deadline with
  | case1 d hstep => exact ⟨by rw [run_eq, hstep], rfl⟩
  | case2 d error left hstep =>
    exact ⟨by rw [run_eq, hstep], congrArg Drain.clock (left_of_step_failed hstep)⟩
  | case3 d hstep => exact absurd hstep hd.ne_waiting.1
  | case4 d next hstep ih =>
    obtain ⟨hnext, hclock⟩ := hd.advanced hstep
    rw [run_eq n none d, hstep, ← hclock]
    exact ih hnext
  | case5 d ms next hstep hnext ih => exact absurd hstep (hd.ne_waiting.2 ms next)
  | case6 d ms next hstep hnext => exact absurd hstep (hd.ne_waiting.2 ms next)

end Drain

end Outflow
