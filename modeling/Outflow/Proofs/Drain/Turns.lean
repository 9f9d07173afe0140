import Outflow.Proofs.Drain.Reached

/-!
# A drain ends, turn by turn

`Drain.run` goes from one look at the schedule to the next.  The loop of a drain goes from one
read to the next: in a turn it waits until something can be read, passing over what streams that
have ended would still do (`ready`), and then reads it (`turn`).  A run without a deadline is turn
after turn (`run_eq_turn`).

`Takes` lists what a turn can read.  Unless nothing is ever readable again, every turn takes an
octet of the next event, closes an open stream or fails (`exists_takes`), and one that does not
fail leaves less unread (`unread_lt_of_takes`).  So the turns come to an end, after no more of them
than the streams have octets and ends, and none of them reads a stream that has been closed
(`turns_end`).
-/

namespace Outflow

/-- A chunk is of one of the two streams. -/
theorem Chunks.length_octetsOf_singleton (s : Stream) (chunk : Bytes) :
    (Chunks.octetsOf .stdout [(s, chunk)]).length + (Chunks.octetsOf .stderr [(s, chunk)]).length =
      chunk.length := by
  cases s <;> simp [octetsOf]

/-- Closing an open stream leaves one open stream less. -/
theorem Stream.Pair.toNat_set_false (p : Stream.Pair Bool) {s : Stream} (ho : p.get s = true) :
    (p.set s false).stdout.toNat + (p.set s false).stderr.toNat + 1 =
      p.stdout.toNat + p.stderr.toNat := by
  cases s <;> simp_all [Stream.Pair.get, Stream.Pair.set, Nat.add_comm]

namespace Drain

open Capture Schedule

variable {n : Nat} {live : Bool} {limit : Option CaptureLimit} {σ : Schedule}
  {origin d next : Drain} {s : Stream}

/-! ### Waiting -/

/-- Nothing of an event can be read: it is about a stream that has ended, or it is a time in which
    neither stream has anything. -/
def passes (d : Drain) : Event → Bool
  | .delay _ => true
  | e => e.stream?.any fun s => !d.opened.get s

/-- The drain by the time that something can be read. -/
def ready (d : Drain) : Drain :=
  (d.later (span (d.pending.takeWhile d.passes))).facing (d.pending.dropWhile d.passes)

theorem passes_of_stream {e : Event} (he : e.stream? = some s) :
    d.passes e = !d.opened.get s := by
  cases e <;> simp_all [passes, Event.stream?]

/-- What is passed over is a delay, or an event of a stream that has ended. -/
theorem passes_cases {e : Event} (h : d.passes e = true) :
    (∃ ms, e = .delay ms) ∨ ∃ s, e.stream? = some s ∧ d.opened.get s = false := by
  cases he : e.stream? with
  | none =>
    left
    cases e <;> simp_all [passes, Event.stream?]
  | some s =>
    rw [passes_of_stream he] at h
    exact .inr ⟨s, rfl, by simpa using h⟩

@[simp] theorem opened_ready (d : Drain) : d.ready.opened = d.opened := rfl

@[simp] theorem settled_ready (d : Drain) : d.ready.settled = d.settled := rfl

/-- A drain that is ready has an event before it that it does not pass over. -/
theorem passes_ready {e : Event} {rest : Schedule} (hp : d.ready.pending = e :: rest) :
    d.passes e = false := by
  have hhead := List.head?_dropWhile_not d.passes d.pending
  have hdrop : d.pending.dropWhile d.passes = e :: rest := hp
  rwa [hdrop] at hhead

/-- Waiting brings nothing up that was not to come. -/
theorem mem_pending_of_ready {e : Event} (h : e ∈ d.ready.pending) : e ∈ d.pending :=
  (List.dropWhile_sublist d.passes).subset h

/-- Nothing of an open stream is passed over. -/
theorem toCome_ready (d : Drain) (s : Stream) : d.ready.toCome s = d.toCome s := by
  cases ho : d.opened.get s with
  | false => rw [toCome_of_closed ho, toCome_of_closed (by exact ho)]
  | true =>
    rw [toCome_of_open ho, toCome_of_open (by exact ho)]
    change outputOf s (d.pending.dropWhile d.passes) = outputOf s d.pending
    induction d.pending with
    | nil => rfl
    | cons e rest ih =>
      cases hpass : d.passes e with
      | false => rw [List.dropWhile_cons_of_neg (by simp [hpass])]
      | true =>
        rw [List.dropWhile_cons_of_pos hpass, ih]
        obtain ⟨ms, rfl⟩ | ⟨t, he, hc⟩ := passes_cases hpass
        · rfl
        · refine (outputOf_cons_of_ne rest he ?_).symm
          rintro rfl
          rw [ho] at hc
          contradiction

/-- Without a deadline, a run goes on from where something can be read. -/
theorem run_ready (n : Nat) (hs : d.settled = false) : d.ready.run n none = d.run n none := by
  suffices hrun : ∀ (σ : Schedule) (d : Drain), d.settled = false →
      ((d.later (span (σ.takeWhile d.passes))).facing (σ.dropWhile d.passes)).run n none =
        (d.facing σ).run n none from hrun d.pending d hs
  intro σ
  induction σ with
  | nil => exact fun _ _ => rfl
  | cons e rest ih =>
    intro d hs
    cases hpass : d.passes e with
    | false =>
      have hread : ¬ d.passes e = true := by simp [hpass]
      rw [List.takeWhile_cons_of_neg hread, List.dropWhile_cons_of_neg hread]
      rfl
    | true =>
      rw [List.takeWhile_cons_of_pos hpass, List.dropWhile_cons_of_pos hpass]
      obtain ⟨ms, rfl⟩ | ⟨t, he, hc⟩ := passes_cases hpass
      · rw [run_delay hs, within, if_pos rfl, ← ih (d.later ms) hs]
        simp only [later, span, Event.span, Nat.add_assoc]
        rfl
      · rw [run_passed hs he hc, ← ih d hs]
        simp only [span, Event.span_of_stream he, Nat.zero_add]

/-! ### Turns -/

/-- One turn of the loop: unless both streams have ended, wait until something can be read, and
    read it. -/
def turn (n : Nat) (d : Drain) : Step := if d.settled then .ended else d.ready.step n

theorem turn_of_settled (hs : d.settled = true) : d.turn n = .ended := if_pos hs

theorem turn_of_not_settled (hs : d.settled = false) : d.turn n = d.ready.step n :=
  if_neg (by simp [hs])

/-- **A run without a deadline is turn after turn.** -/
theorem run_eq_turn (n : Nat) (d : Drain) :
    d.run n none =
      match d.turn n with
      | .ended => (.ended, d)
      | .failed error left => (.failed error, left)
      | .stalled => (.hung, d.ready)
      | .advanced next => next.run n none
      | .waiting _ next => next.run n none := by
  cases hs : d.settled with
  | true => rw [run_settled hs, turn_of_settled hs]
  | false =>
    rw [turn_of_not_settled hs, ← run_ready n hs, run_eq]
    cases hstep : d.ready.step n with
    | ended =>
      rw [← settled_ready, settled_of_step hstep] at hs
      contradiction
    | _ => rfl

/-- What one turn reads. -/
inductive Turn where
  /-- Some octets of a stream. -/
  | output (s : Stream) (chunk : Bytes)
  /-- The end of a stream. -/
  | ended (s : Stream)
  /-- The failure of a stream. -/
  | failed (s : Stream) (error : IoError)
  deriving DecidableEq, Repr

/-- The stream that a turn reads. -/
def Turn.stream : Turn → Stream
  | output s _ => s
  | ended s => s
  | failed s _ => s

/-- What a turn can read, and what it comes to.  It reads an open stream. -/
inductive Takes (n : Nat) (d : Drain) : Turn → Step → Prop where
  /-- At least one octet of the next event is taken, and what is left of the event stays. -/
  | output {s : Stream} {bytes : Bytes} {rest : Schedule} (ho : d.opened.get s = true)
    (hp : d.ready.pending = .data s bytes :: rest) (hchunk : bytes.take (max n 1) ≠ [])
    (hr : (d.captures.get s).refusal? (bytes.take (max n 1)) = none) :
    Takes n d (.output s (bytes.take (max n 1)))
      (.advanced ((d.ready.recorded s (bytes.take (max n 1))).facing
        (if bytes.drop (max n 1) = [] then rest else .data s (bytes.drop (max n 1)) :: rest)))
  /-- A stream is closed: its end comes next, or the schedule has run out. -/
  | ended {s : Stream} (ho : d.opened.get s = true)
    (he : ∀ e ∈ d.ready.pending.head?, e = .eof s ∨ e = .data s []) :
    Takes n d (.ended s) (.advanced ((d.ready.close s).facing d.ready.pending.tail))
  /-- The limit refuses what is taken. -/
  | overflow {s : Stream} {bytes : Bytes} {rest : Schedule} {o : Overflow}
    (ho : d.opened.get s = true) (hp : d.ready.pending = .data s bytes :: rest)
    (hr : (d.captures.get s).refusal? (bytes.take (max n 1)) = some o) :
    Takes n d (.output s (bytes.take (max n 1))) (.failed (.overflow o) d.ready)
  /-- The stream fails. -/
  | failed {s : Stream} {error : IoError} {rest : Schedule} (ho : d.opened.get s = true)
    (hp : d.ready.pending = .fail s error :: rest) :
    Takes n d (.failed s error) (.failed (.read s error) d.ready)

theorem Takes.opened {t : Turn} {step : Step} (h : d.Takes n t step) :
    d.opened.get t.stream = true := by
  cases h <;> assumption

/-- **Every turn takes an octet, closes an open stream or fails,** unless nothing is ever readable
    again. -/
theorem exists_takes (n : Nat) (hs : d.settled = false) (hstall : .stall ∉ d.pending) :
    ∃ t, d.Takes n t (d.turn n) := by
  rw [turn_of_not_settled hs]
  have hlook := look n d.ready
  generalize d.ready.step n = step at hlook
  cases hlook with
  | ended hsettled =>
    rw [settled_ready, hs] at hsettled
    contradiction
  | @runsOut s hp ho =>
    have hnext : d.ready.close s = (d.ready.close s).facing d.ready.pending.tail := by
      rw [hp, List.tail_nil, ← hp]
      rfl
    rw [hnext]
    exact ⟨_, .ended ho (by simp [hp])⟩
  | passed hp he ho =>
    have hpass := passes_ready hp
    rw [passes_of_stream he, ← opened_ready, ho] at hpass
    contradiction
  | @ends e s rest hp he ho =>
    have htail : d.ready.pending.tail = rest := by rw [hp, List.tail_cons]
    rw [← htail]
    exact ⟨_, .ended ho (by simpa [hp] using he)⟩
  | @output s bytes rest hp ho hb hr =>
    have hchunk : bytes.take (max n 1) ≠ [] := by
      rw [Ne, List.take_eq_nil_iff, not_or]
      exact ⟨by omega, hb⟩
    exact ⟨_, .output ho hp hchunk hr⟩
  | overflow hp ho hb hr => exact ⟨_, .overflow ho hp hr⟩
  | fails hp ho => exact ⟨_, .failed ho hp⟩
  | delay hp hs =>
    have hpass := passes_ready hp
    contradiction
  | stall hp hs => exact absurd (mem_pending_of_ready (hp ▸ List.mem_cons_self)) hstall

/-! ### What is left to read -/

/-- The octets that the open streams are still to let out, and their ends. -/
def unread (d : Drain) : Nat :=
  (d.toCome .stdout).length + (d.toCome .stderr).length +
    (d.opened.stdout.toNat + d.opened.stderr.toNat)

/-- An open stream has at least its end left. -/
theorem unread_pos (hs : d.settled = false) : 0 < d.unread := by
  obtain ⟨s, ho⟩ := exists_opened hs
  have hcount := d.opened.toNat_set_false ho
  unfold unread
  omega

/-- **Every turn that does not fail leaves less unread.** -/
theorem unread_lt_of_takes {t : Turn} (hturn : d.turn n = .advanced next)
    (h : d.Takes n t (.advanced next)) : next.unread < d.unread := by
  have hstep : d.ready.step n = .advanced next := by
    rwa [turn_of_not_settled (settled_eq_false h.opened)] at hturn
  have hcome : ∀ s, (d.toCome s).length =
      ((d.ready.nextRead n).octetsOf s).length + (next.toCome s).length := by
    intro s
    rw [← toCome_ready, toCome_advanced hstep, List.length_append]
  have hout := hcome .stdout
  have herr := hcome .stderr
  cases h with
  | @output s bytes rest ho hp hchunk hr =>
    have hb : bytes ≠ [] := by
      rintro rfl
      exact hchunk List.take_nil
    have hlen : 0 < (bytes.take (max n 1)).length := List.length_pos_iff.2 hchunk
    rw [nextRead_of_data hp ho hb] at hout herr
    have hread := Chunks.length_octetsOf_singleton s (bytes.take (max n 1))
    simp only [unread, facing, opened_recorded, opened_ready] at hout herr ⊢
    omega
  | @ended s ho he =>
    have hcount := d.opened.toNat_set_false ho
    simp only [unread, facing, close, opened_ready] at hout herr ⊢
    omega

/-! ### Turn after turn -/

/-- A drain has come from its start to this state by these turns, none of which has failed. -/
inductive Turns (n : Nat) (origin : Drain) : List Turn → Drain → Prop where
  | origin : Turns n origin [] origin
  | snoc {ts : List Turn} {t : Turn} {d next : Drain} (h : Turns n origin ts d)
    (hturn : d.turn n = .advanced next) (ht : d.Takes n t (.advanced next)) :
    Turns n origin (ts ++ [t]) next

theorem Takes.stall_notMem {t : Turn} (h : d.Takes n t (.advanced next))
    (hstall : .stall ∉ d.pending) : .stall ∉ next.pending := by
  have hready : .stall ∉ d.ready.pending := fun hmem => hstall (mem_pending_of_ready hmem)
  cases h with
  | output ho hp hchunk hr =>
    rw [hp] at hready
    simp only [facing]
    split <;> simp_all
  | ended ho he => exact fun hmem => hready (List.mem_of_mem_tail hmem)

theorem Takes.opened_next {t : Turn} (h : d.Takes n t (.advanced next)) (s : Stream) :
    next.opened.get s = false ↔ t = .ended s ∨ d.opened.get s = false := by
  cases h with
  | output ho hp hchunk hr => simp [facing]
  | @ended u ho he =>
    by_cases hs : s = u
    · subst hs
      simp [facing]
    · simp [facing, opened_close_of_ne d.ready hs, Ne.symm hs]

namespace Turns

variable {ts : List Turn}

/-- The turns pay for what they leave less to read. -/
theorem length_add_unread (h : Turns n origin ts d) : ts.length + d.unread ≤ origin.unread := by
  induction h with
  | origin => simp
  | snoc h hturn ht ih =>
    have hlt := unread_lt_of_takes hturn ht
    rw [List.length_append, List.length_singleton]
    omega

theorem stall_notMem (h : Turns n origin ts d) (hstall : .stall ∉ origin.pending) :
    .stall ∉ d.pending := by
  induction h with
  | origin => exact hstall
  | snoc h hturn ht ih => exact ht.stall_notMem ih

/-- The streams that have been closed are those whose end has been read. -/
theorem mem_ended_iff (h : Turns n (start live limit σ) ts d) (s : Stream) :
    .ended s ∈ ts ↔ d.opened.get s = false := by
  induction h with
  | origin => cases s <;> simp [start, Stream.Pair.get]
  | snoc h hturn ht ih =>
    rw [ht.opened_next, List.mem_append, ih, List.mem_singleton, or_comm, eq_comm]

/-- A run goes on from wherever turns have come to. -/
theorem run_origin (h : Turns n origin ts d) : origin.run n none = d.run n none := by
  induction h with
  | origin => rfl
  | snoc h hturn ht ih => rw [ih, run_eq_turn, hturn]

/-- Turns follow one another until both streams have ended or one turn fails. -/
theorem exists_last (h : Turns n origin ts d) (hstall : .stall ∉ origin.pending) :
    ∃ ts d, Turns n origin ts d ∧
      (d.settled = true ∨ ∃ error, d.turn n = .failed error d.ready) := by
  induction hlen : d.unread using Nat.strong_induction_on generalizing ts d with
  | _ len ih =>
    cases hs : d.settled with
    | true => exact ⟨ts, d, h, .inl hs⟩
    | false =>
      obtain ⟨t, ht⟩ := exists_takes n hs (h.stall_notMem hstall)
      cases hturn : d.turn n with
      | failed error left =>
        obtain rfl := left_of_step_failed (turn_of_not_settled hs ▸ hturn)
        exact ⟨ts, d, h, .inr ⟨error, hturn⟩⟩
      | advanced next =>
        rw [hturn] at ht
        exact ih next.unread (hlen ▸ unread_lt_of_takes hturn ht) (h.snoc hturn ht) rfl
      | _ =>
        rw [hturn] at ht
        cases ht

end Turns

theorem unread_start (live : Bool) (limit : Option CaptureLimit) (σ : Schedule) :
    (start live limit σ).unread = (outputOf .stdout σ).length + (outputOf .stderr σ).length + 2 :=
  rfl

/-- **A drain always ends**, unless nothing is ever readable again.  Its turns follow one another
    until both streams have ended or a turn fails, which is then the end of the run.  Every turn
    takes an octet, closes an open stream or fails, and none of them reads a stream whose end has
    been read; so there are never more of them than the streams have octets and ends. -/
theorem turns_end (n : Nat) (live : Bool) (limit : Option CaptureLimit) {σ : Schedule}
    (hstall : .stall ∉ σ) :
    (∃ ts d, Turns n (start live limit σ) ts d ∧
      (d.turn n = .ended ∧ (start live limit σ).run n none = (.ended, d) ∨
        ∃ error, d.turn n = .failed error d.ready ∧
          (start live limit σ).run n none = (.failed error, d.ready))) ∧
    ∀ ts d, Turns n (start live limit σ) ts d →
      ts.length ≤ (outputOf .stdout σ).length + (outputOf .stderr σ).length + 2 ∧
      (d.settled = true ∧ d.turn n = .ended ∨
        ∃ t, d.Takes n t (d.turn n) ∧ .ended t.stream ∉ ts ∧
          ts.length < (outputOf .stdout σ).length + (outputOf .stderr σ).length + 2) := by
  constructor
  · have horigin : Turns n (start live limit σ) [] (start live limit σ) := .origin
    obtain ⟨ts, d, h, hlast⟩ := horigin.exists_last hstall
    refine ⟨ts, d, h, ?_⟩
    rw [h.run_origin, run_eq_turn]
    obtain hs | ⟨error, herror⟩ := hlast
    · rw [turn_of_settled hs]
      exact .inl ⟨rfl, rfl⟩
    · rw [herror]
      exact .inr ⟨error, rfl, rfl⟩
  · intro ts d h
    have hlength := h.length_add_unread
    rw [unread_start] at hlength
    refine ⟨Nat.le_of_add_right_le hlength, ?_⟩
    cases hs : d.settled with
    | true => exact .inl ⟨rfl, turn_of_settled hs⟩
    | false =>
      obtain ⟨t, ht⟩ := exists_takes n hs (h.stall_notMem hstall)
      refine .inr ⟨t, ht, fun hended => ?_, ?_⟩
      · rw [h.mem_ended_iff, ht.opened] at hended
        contradiction
      · have hpos := unread_pos hs
        omega

/-- With a chunk size of zero a turn still takes an octet.  Standard output goes on after its end in
    vain, and there are as many turns as there can be. -/
theorem turns_end_attained :
    let σ : Schedule := [.data .stdout [97, 98], .delay 5, .eof .stdout, .data .stdout [99],
      .data .stderr []]
    let ts : List Turn := [.output .stdout [97], .output .stdout [98], .ended .stdout,
      .ended .stderr]
    .stall ∉ σ ∧ ∃ d, Turns 0 (start true none σ) ts d ∧ d.turn 0 = .ended ∧
      ts.length = (outputOf .stdout σ).length + (outputOf .stderr σ).length + 2 := by
  intro σ ts
  have hstall : .stall ∉ σ := by decide
  let d₀ : Drain := start true none σ
  let d₁ : Drain := (d₀.recorded .stdout [97]).facing (.data .stdout [98] :: σ.drop 1)
  let d₂ : Drain := (d₁.recorded .stdout [98]).facing (σ.drop 1)
  let d₃ : Drain := ((d₂.later 5).close .stdout).facing (σ.drop 3)
  let d₄ : Drain := (d₃.close .stderr).facing []
  have h₁ : d₀.Takes 0 (.output .stdout [97]) (.advanced d₁) :=
    @Takes.output 0 d₀ .stdout [97, 98] _ rfl rfl (by decide) rfl
  have h₂ : d₁.Takes 0 (.output .stdout [98]) (.advanced d₂) :=
    @Takes.output 0 d₁ .stdout [98] _ rfl rfl (by decide) rfl
  have h₃ : d₂.Takes 0 (.ended .stdout) (.advanced d₃) := .ended rfl (by decide)
  have h₄ : d₃.Takes 0 (.ended .stderr) (.advanced d₄) := .ended rfl (by decide)
  have h : Turns 0 d₀ ts d₄ :=
    (((Turns.origin.snoc rfl h₁).snoc rfl h₂).snoc rfl h₃).snoc rfl h₄
  refine ⟨hstall, d₄, h, ?_, rfl⟩
  obtain ⟨-, ⟨-, hended⟩ | ⟨t, -, hnot, -⟩⟩ := (turns_end 0 true none hstall).2 ts d₄ h
  · exact hended
  · exact absurd (by cases t.stream <;> decide) hnot

end Drain

end Outflow
