import Outflow.Proofs.Drain.Event

/-!
# A drain, look by look

`Look` lists what one look at the streams can come to, with the conditions under which it does
(`look`), so that proofs about single steps go by cases on it and not on the definition of
`Drain.step`.

A property that no look takes away (`Stable`) holds at the end of every run that it holds at the
beginning of.  Three such properties follow: what has been let out stays let out, what has been
captured without a limit stays captured, and the only entries of the log are warnings about the
limit.
-/

namespace Outflow

namespace Drain

variable {n : Nat} {deadline : Option Nat} {d : Drain}

/-! ### One look -/

/-- What one look at the streams can come to. -/
inductive Look (n : Nat) (d : Drain) : Step → Prop where
  | ended (hs : d.settled = true) : Look n d .ended
  /-- The schedule has run out. -/
  | runsOut {s : Stream} (hp : d.pending = []) (ho : d.opened.get s = true) :
    Look n d (.advanced (d.close s))
  /-- The next event is about a stream that has ended. -/
  | passed {e : Event} {s : Stream} {rest : Schedule} (hp : d.pending = e :: rest)
    (he : e.stream? = some s) (ho : d.opened.get s = false) : Look n d (.advanced (d.facing rest))
  | ends {e : Event} {s : Stream} {rest : Schedule} (hp : d.pending = e :: rest)
    (he : e = .eof s ∨ e = .data s []) (ho : d.opened.get s = true) :
    Look n d (.advanced ((d.close s).facing rest))
  | output {s : Stream} {bytes : Bytes} {rest : Schedule} (hp : d.pending = .data s bytes :: rest)
    (ho : d.opened.get s = true) (hb : bytes ≠ [])
    (hr : (d.captures.get s).refusal? (bytes.take (max n 1)) = none) :
    Look n d (.advanced ((d.recorded s (bytes.take (max n 1))).facing
      (if bytes.drop (max n 1) = [] then rest else .data s (bytes.drop (max n 1)) :: rest)))
  | overflow {s : Stream} {bytes : Bytes} {rest : Schedule} {o : Overflow}
    (hp : d.pending = .data s bytes :: rest) (ho : d.opened.get s = true) (hb : bytes ≠ [])
    (hr : (d.captures.get s).refusal? (bytes.take (max n 1)) = some o) :
    Look n d (.failed (.overflow o) d)
  | fails {s : Stream} {error : IoError} {rest : Schedule}
    (hp : d.pending = .fail s error :: rest) (ho : d.opened.get s = true) :
    Look n d (.failed (.read s error) d)
  | delay {ms : Nat} {rest : Schedule} (hp : d.pending = .delay ms :: rest)
    (hs : d.settled = false) : Look n d (.waiting ms ((d.later ms).facing rest))
  | stall {rest : Schedule} (hp : d.pending = .stall :: rest) (hs : d.settled = false) :
    Look n d .stalled

/-- **Every look at the streams is one of those listed.** -/
theorem look (n : Nat) (d : Drain) : Look n d (d.step n) := by
  cases hs : d.settled with
  | true =>
    have hstep : d.step n = .ended := if_pos hs
    rw [hstep]
    exact .ended hs
  | false =>
    have hreads : ¬ (!d.opened.stdout && !d.opened.stderr) = true := by
      rw [Bool.not_eq_true]
      exact hs
    -- The schedule moves on before the stream is closed, or after it: it is the same.
    have hclose : ∀ {e : Event} {s : Stream} (rest : Schedule), (e = .eof s ∨ e = .data s []) →
        d.pending = e :: rest → d.opened.get s = true →
        Look n d (.advanced ({ d with pending := rest }.close s)) :=
      fun rest he hp ho => .ends hp he ho
    rw [step, if_neg hreads]
    cases hp : d.pending with
    | nil =>
      refine .runsOut hp ?_
      cases ho : d.opened.stdout with
      | true => exact ho
      | false => simpa [settled, Stream.Pair.get, ho] using hs
    | cons e rest =>
      cases e with
      | data s bytes =>
        cases ho : d.opened.get s with
        | false => simpa [ho, facing] using Look.passed hp rfl ho
        | true =>
          by_cases hb : bytes = []
          · subst hb
            simpa [ho] using hclose rest (.inr rfl) hp ho
          · simp only [ho, hb, Bool.not_true, Bool.false_eq_true, if_false, read, record_eq]
            cases hr : (d.captures.get s).refusal? (bytes.take (max n 1)) with
            | none => exact .output hp ho hb hr
            | some o => exact .overflow hp ho hb hr
      | eof s =>
        cases ho : d.opened.get s with
        | false => simpa [ho, facing] using Look.passed hp rfl ho
        | true => simpa [ho] using hclose rest (.inl rfl) hp ho
      | fail s error =>
        cases ho : d.opened.get s with
        | false => simpa [ho, facing] using Look.passed hp rfl ho
        | true => simpa [ho] using Look.fails hp ho
      | delay ms => exact .delay hp hs
      | stall => exact .stall hp hs

/-- **A look that fails leaves the drain as it was.** -/
theorem left_of_step_failed {error : DrainError} {left : Drain}
    (h : d.step n = .failed error left) : left = d := by
  have hlook := look n d
  rw [h] at hlook
  cases hlook <;> rfl

/-! ### Properties that no look takes away -/

/-- A property of drains that no look takes away. -/
structure Stable (P : Drain → Prop) : Prop where
  /-- It does not depend on what is still to come, nor on the time. -/
  move : ∀ {d : Drain} (σ : Schedule) (time : Nat), P d → P { d with pending := σ, clock := time }
  close : ∀ {d : Drain} {s : Stream}, d.opened.get s = true → P d → P (d.close s)
  record : ∀ {d : Drain} {s : Stream} {chunk : Bytes}, d.opened.get s = true →
    (d.captures.get s).refusal? chunk = none → P d → P (d.recorded s chunk)

namespace Stable

variable {P : Drain → Prop}

theorem advanced (hP : Stable P) {next : Drain} (h : d.step n = .advanced next) (hd : P d) :
    P next := by
  have hlook := look n d
  rw [h] at hlook
  cases hlook with
  | runsOut hp ho => exact hP.close ho hd
  | passed hp he ho => exact hP.move _ d.clock hd
  | ends hp he ho => exact hP.move _ d.clock (hP.close ho hd)
  | output hp ho hb hr => exact hP.move _ d.clock (hP.record ho hr hd)

theorem waiting (hP : Stable P) {ms : Nat} {next : Drain} (h : d.step n = .waiting ms next)
    (hd : P d) : P next := by
  have hlook := look n d
  rw [h] at hlook
  cases hlook with
  | @delay _ rest hp hs => exact hP.move (d := d) rest (d.clock + ms) hd

theorem giveUp (hP : Stable P) (deadline : Option Nat) (hd : P d) : P (d.giveUp deadline).2 := by
  cases deadline with
  | none => exact hd
  | some time => exact hP.move d.pending time hd

/-- **What no look takes away, a run does not take away.** -/
theorem run (hP : Stable P) (n : Nat) (deadline : Option Nat) (hd : P d) :
    P (d.run n deadline).2 := by
  induction d using Drain.run.induct_unfolding n deadline with
  | case1 d h => exact hd
  | case2 d error left h => rwa [left_of_step_failed h]
  | case3 d h => exact hP.giveUp deadline hd
  | case4 d next h ih => exact ih (hP.advanced h hd)
  | case5 d ms next h hwithin ih => exact ih (hP.waiting h hd)
  | case6 d ms next h hwithin => exact hP.giveUp deadline hd

end Stable

/-! ### Three of them -/

theorem stable_emitted (es : List Emission) : Stable (es <+: ·.emitted) where
  move _ _ h := h
  close _ h := by
    rw [emitted_close]
    exact h.trans (List.prefix_append _ _)
  record _ _ h := by
    rw [emitted_recorded]
    exact h.trans (List.prefix_append _ _)

/-- **What has been let out stays let out.** -/
theorem emitted_prefix_run (n : Nat) (deadline : Option Nat) (d : Drain) :
    d.emitted <+: (d.run n deadline).2.emitted :=
  (stable_emitted d.emitted).run n deadline (List.prefix_refl _)

theorem stable_bytes (kept : Stream → Bytes) :
    Stable fun d =>
      ∀ s, (d.captures.get s).limit = none ∧ kept s <+: (d.captures.get s).bytes where
  move _ _ h := h
  close {d t} _ h s := by
    by_cases hs : s = t
    · subst hs
      rw [capture_close]
      exact h s
    · rw [capture_close_of_ne d hs]
      exact h s
  record {d t chunk} _ _ h s := by
    by_cases hs : s = t
    · subst hs
      rw [capture_recorded, Capture.bytes_recorded chunk (h s).1]
      exact ⟨(h s).1, (h s).2.trans (List.prefix_append _ _)⟩
    · rw [capture_recorded_of_ne d chunk hs]
      exact h s

/-- **What has been captured without a limit stays captured.** -/
theorem bytes_prefix_run (n : Nat) (deadline : Option Nat) {d : Drain}
    (h : ∀ s, (d.captures.get s).limit = none) (s : Stream) :
    (d.captures.get s).bytes <+: ((d.run n deadline).2.captures.get s).bytes :=
  ((stable_bytes fun s => (d.captures.get s).bytes).run n deadline
    fun s => ⟨h s, List.prefix_refl _⟩) s |>.2

/-- The log holds nothing but warnings about the limit. -/
def OnlyWarned (d : Drain) : Prop :=
  ∀ entry ∈ Emission.logs d.emitted, entry.level = .warn ∧ entry.source = .capture

theorem stable_onlyWarned : Stable OnlyWarned where
  move _ _ h := h
  close {d s} _ h := by
    intro entry hentry
    rw [emitted_close, Emission.logs_append, Capture.logs_finish, List.mem_append] at hentry
    exact hentry.elim (h entry) Capture.warn_of_mem_lossNote
  record {d s chunk} _ _ h := by
    intro entry hentry
    rw [emitted_recorded, Emission.logs_append, Capture.logs_completed, List.append_nil] at hentry
    exact h entry hentry

end Drain

end Outflow
