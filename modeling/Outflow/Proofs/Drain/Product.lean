import Outflow.Proofs.Drain.Event

/-!
# Two streams drained together are two streams drained alone

`prospect` says for one stream what a drain will have made of it at the end, from what it has
made of it so far and from the events of this stream alone.  No event that is read changes
what is in prospect for either stream (`prospect_data`, `prospect_end`, `prospect_passed`), and
at the end nothing else has come about (`run_prospect`).  So the order in which the streams
become readable does not matter: a drain ends well exactly if each stream does, and what is
then captured of a stream and forwarded from it is what one capture alone makes of it
(`run_start_product`).
-/

namespace Outflow

namespace Drain

open Capture Schedule

variable {n : Nat} {deadline : Option Nat} {d : Drain} {s t : Stream} {rest : Schedule}

/-! ### Captures of their own streams -/

/-- Each capture is one of its own stream, and within its limit. -/
def Sound (d : Drain) : Prop := ∀ s, (d.captures.get s).source = s ∧ (d.captures.get s).Fits

/-- What one stream lets out is not of the other. -/
theorem Sound.source_ne (hd : d.Sound) (h : s ≠ t) : (d.captures.get t).source ≠ s := by
  rw [(hd t).1]
  exact h.symm

theorem sound_start (live : Bool) (limit : Option CaptureLimit) (σ : Schedule) :
    (start live limit σ).Sound := by
  intro s
  cases s <;> exact ⟨rfl, fits_start _ _ _⟩

theorem sound_recorded (bytes : Bytes) (hd : d.Sound) : (d.recorded t bytes).Sound := by
  intro s
  by_cases h : s = t
  · subst h
    rw [capture_recorded]
    exact ⟨(hd s).1, fits_recorded _ _⟩
  · rw [capture_recorded_of_ne d bytes h]
    exact hd s

theorem sound_close (hd : d.Sound) (t : Stream) : (d.close t).Sound := by
  intro s
  by_cases h : s = t
  · subst h
    rw [capture_close]
    exact hd s
  · rw [capture_close_of_ne d h]
    exact hd s

theorem sound_closeOpen (hd : d.Sound) (t : Stream) : (d.closeOpen t).Sound := by
  unfold closeOpen
  split
  · exact sound_close hd t
  · exact hd

/-! ### What is in prospect -/

/-- What will have been captured and forwarded of a stream in the end, or nothing if something
    about this stream prevents the end. -/
def prospect (d : Drain) (σ : Schedule) (s : Stream) : Option (Capture × List String) :=
  let c := d.captures.get s
  let ended := c.recorded (σ.outputOf s)
  if d.opened.get s = false then some (c, Emission.linesFrom s d.emitted)
  else if σ.endOf s = .eof ∧ c.refusal? (σ.outputOf s) = none then
    some (ended.finish.1,
      Emission.linesFrom s (d.emitted ++ (c.completed (σ.outputOf s) ++ ended.finish.2)))
  else none

theorem prospect_of_closed (σ : Schedule) (h : d.opened.get s = false) :
    d.prospect σ s = some (d.captures.get s, Emission.linesFrom s d.emitted) := if_pos h

theorem prospect_of_open (σ : Schedule) (h : d.opened.get s = true) :
    d.prospect σ s =
      if σ.endOf s = .eof ∧ (d.captures.get s).refusal? (σ.outputOf s) = none then
        some (((d.captures.get s).recorded (σ.outputOf s)).finish.1,
          Emission.linesFrom s (d.emitted ++ ((d.captures.get s).completed (σ.outputOf s) ++
            ((d.captures.get s).recorded (σ.outputOf s)).finish.2)))
      else none := by
  rw [prospect, if_neg (by simp [h])]

/-- Only the output and the end of a stream matter to what is in prospect for it. -/
theorem prospect_congr {σ τ : Schedule} (hout : σ.outputOf s = τ.outputOf s)
    (hend : σ.endOf s = τ.endOf s) : d.prospect σ s = d.prospect τ s := by
  rw [prospect, prospect, hout, hend]

/-! ### The other stream -/

/-- What a chunk of one stream leaves as it was for the other. -/
theorem prospect_recorded_of_ne (bytes : Bytes) (σ : Schedule) (hd : d.Sound) (h : s ≠ t) :
    (d.recorded t bytes).prospect σ s = d.prospect σ s := by
  have hlines : Emission.linesFrom s (d.recorded t bytes).emitted =
      Emission.linesFrom s d.emitted := by
    rw [emitted_recorded, Emission.linesFrom_append, linesFrom_completed bytes (hd.source_ne h),
      List.append_nil]
  simp only [prospect, capture_recorded_of_ne d bytes h, opened_recorded,
    Emission.linesFrom_append, hlines]

/-- What the end of one stream leaves as it was for the other. -/
theorem prospect_close_of_ne (σ : Schedule) (hd : d.Sound) (h : s ≠ t) :
    (d.close t).prospect σ s = d.prospect σ s := by
  have hlines : Emission.linesFrom s (d.close t).emitted = Emission.linesFrom s d.emitted := by
    rw [emitted_close, Emission.linesFrom_append, linesFrom_finish (hd.source_ne h),
      List.append_nil]
  simp only [prospect, capture_close_of_ne d h, opened_close_of_ne d h,
    Emission.linesFrom_append, hlines]

/-! ### Events -/

/-- Passing over an event of a stream that has ended changes nothing. -/
theorem prospect_passed {e : Event} (he : e.stream? = some t) (ho : d.opened.get t = false)
    (s : Stream) : d.prospect (e :: rest) s = d.prospect rest s := by
  by_cases h : s = t
  · subst h
    rw [prospect_of_closed _ ho, prospect_of_closed _ ho]
  · exact prospect_congr (outputOf_cons_of_ne rest he h) (endOf_cons_of_ne rest he h)

/-- Recording output takes it out of what is to come. -/
theorem prospect_data {bytes : Bytes} (hd : d.Sound) (ho : d.opened.get t = true)
    (hb : bytes ≠ []) (hr : (d.captures.get t).refusal? bytes = none) (s : Stream) :
    d.prospect (.data t bytes :: rest) s = (d.recorded t bytes).prospect rest s := by
  by_cases h : s = t
  · subst h
    have hout : outputOf s (.data s bytes :: rest) = bytes ++ outputOf s rest := by
      simp [outputOf, hb]
    have hend : endOf s (.data s bytes :: rest) = endOf s rest := by simp [endOf, hb]
    rw [prospect_of_open _ ho, prospect_of_open _ (by simpa using ho), hout, hend, emitted_recorded,
      refusal?_append, hr, Capture.recorded_append, completed_append, capture_recorded]
    simp
  · rw [prospect_recorded_of_ne bytes rest hd h]
    exact prospect_congr (outputOf_cons_of_ne rest rfl h) (endOf_cons_of_ne rest rfl h)

/-- Output that the limit refuses is the end of all prospects. -/
theorem prospect_overflow {bytes : Bytes} {o : Overflow} (ho : d.opened.get t = true)
    (hb : bytes ≠ []) (hr : (d.captures.get t).refusal? bytes = some o) :
    d.prospect (.data t bytes :: rest) t = none := by
  rw [prospect_of_open _ ho]
  simp [outputOf, hb, refusal?_append, hr]

/-- The end of a stream settles what was in prospect for it. -/
theorem prospect_close (σ : Schedule) (hd : d.Sound) (ho : d.opened.get t = true)
    (hout : σ.outputOf t = []) (hend : σ.endOf t = .eof) (τ : Schedule) :
    d.prospect σ t = (d.close t).prospect τ t := by
  rw [prospect_of_open _ ho, prospect_of_closed _ (opened_close d), hout, hend, capture_close,
    emitted_close, refusal?_nil (hd t).2, recorded_nil (hd t).2]
  simp

theorem prospect_end {e : Event} (hd : d.Sound) (he : e = .eof t ∨ e = .data t [])
    (ho : d.opened.get t = true) (s : Stream) :
    d.prospect (e :: rest) s = (d.close t).prospect rest s := by
  by_cases h : s = t
  · subst h
    obtain rfl | rfl := he <;> exact prospect_close _ hd ho (by simp [outputOf]) (by simp [endOf]) _
  · have hstream : e.stream? = some t := by
      obtain rfl | rfl := he <;> rfl
    rw [prospect_close_of_ne rest hd h]
    exact prospect_congr (outputOf_cons_of_ne rest hstream h) (endOf_cons_of_ne rest hstream h)

/-! ### The end of the schedule -/

theorem prospect_closeOpen (hd : d.Sound) (t s : Stream) :
    d.prospect [] s = (d.closeOpen t).prospect [] s := by
  unfold closeOpen
  split
  · rename_i ho
    by_cases h : s = t
    · subst h
      exact prospect_close [] hd ho rfl rfl []
    · exact (prospect_close_of_ne [] hd h).symm
  · rfl

/-- With nothing left to come, closing what is open gives what was in prospect. -/
theorem prospect_nil (hd : d.Sound) (s : Stream) :
    d.prospect [] s =
      some (d.closeAll.captures.get s, Emission.linesFrom s d.closeAll.emitted) := by
  have hclosed := settled_iff.1 (settled_closeAll d) s
  rw [prospect_closeOpen hd .stdout, prospect_closeOpen (sound_closeOpen hd .stdout) .stderr]
  exact prospect_of_closed [] hclosed

/-! ### Runs -/

/-- A run that came to its end made of each stream what was in prospect for it; and without a
    deadline it does come to its end if there is a prospect for both. -/
def Fulfils (deadline : Option Nat) (p : Stream → Option (Capture × List String))
    (r : DrainEnd × Drain) : Prop :=
  (r.1 = .ended → ∀ s, p s = some (r.2.captures.get s, Emission.linesFrom s r.2.emitted)) ∧
    (deadline = none → (∀ s, (p s).isSome) → r.1 = .ended)

theorem fulfils_ended {p : Stream → Option (Capture × List String)}
    (h : ∀ s, p s = some (d.captures.get s, Emission.linesFrom s d.emitted)) :
    Fulfils deadline p (.ended, d) :=
  ⟨fun _ => h, fun _ _ => rfl⟩

/-- A run may end badly if one stream has no prospect. -/
theorem fulfils_of_none {p : Stream → Option (Capture × List String)} {r : DrainEnd × Drain}
    (hr : r.1 ≠ .ended) (hp : p s = none) : Fulfils deadline p r := by
  refine ⟨fun h => absurd h hr, fun _ hsome => ?_⟩
  have := hsome s
  rw [hp] at this
  contradiction

theorem giveUp_ne_ended : (d.giveUp deadline).1 ≠ .ended := by
  cases deadline <;> simp [giveUp]

/-- **What is in prospect at the start of a run is what comes about.** -/
theorem run_prospect (hd : d.Sound) (n : Nat) (deadline : Option Nat) (σ : Schedule) :
    Fulfils deadline (d.prospect σ) ((d.facing σ).run n deadline) := by
  -- By induction on the schedule: whatever its head is, what is in prospect stays what it was.
  induction σ generalizing d with
  | nil =>
    rw [run_nil]
    exact fulfils_ended (prospect_nil hd)
  | cons e rest ih =>
    cases hs : d.settled with
    | true =>
      rw [run_settled (by exact hs)]
      exact fulfils_ended fun s => prospect_of_closed _ (settled_iff.1 hs s)
    | false =>
      cases d.head e with
      | passed he ho =>
        rw [run_passed hs he ho, funext (prospect_passed he ho)]
        exact ih hd
      | @ends _ t he ho =>
        rw [run_end he ho, funext (prospect_end hd he ho)]
        exact ih (sound_close hd t)
      | @output t bytes ho hb hr =>
        rw [run_data ho hb hr, funext (prospect_data hd ho hb hr)]
        exact ih (sound_recorded bytes hd)
      | overflow ho hb hr =>
        obtain ⟨d', -, hrun⟩ := run_data_overflow n deadline rest ho hb hr
        rw [hrun]
        exact fulfils_of_none (by simp) (prospect_overflow ho hb hr)
      | @fails t error ho =>
        rw [run_fail ho]
        refine fulfils_of_none (s := t) (by simp) ?_
        rw [prospect_of_open _ ho, if_neg (by simp [endOf])]
      | @delay ms =>
        have hout : d.prospect (.delay ms :: rest) = (d.later ms).prospect rest := rfl
        rw [run_delay hs, hout]
        split
        · exact ih hd
        · -- Without a deadline it is never too late.
          rename_i hlate
          refine ⟨fun h => absurd h giveUp_ne_ended, fun hnone => ?_⟩
          subst hnone
          exact absurd rfl hlate
      | stall =>
        -- A stream that is open now will never end.
        obtain ⟨t, ho⟩ := exists_opened hs
        rw [run_stall hs]
        refine fulfils_of_none (s := t) giveUp_ne_ended ?_
        rw [prospect_of_open _ ho, if_neg (by simp [endOf])]

/-! ### From the start -/

/-- What is in prospect for a stream of which nothing has been read. -/
theorem prospect_start (live : Bool) (limit : Option CaptureLimit) (σ : Schedule) (s : Stream) :
    (start live limit σ).prospect σ s =
      if σ.endOf s = .eof ∧ CaptureLimit.refuses limit (σ.outputOf s).length = false then
        let c := (Capture.start s live limit).recorded (σ.outputOf s)
        some (c.finish.1, Emission.linesFrom s
          ((Capture.start s live limit).completed (σ.outputOf s) ++ c.finish.2))
      else none := by
  have hcapture : (start live limit σ).captures.get s = Capture.start s live limit := by
    cases s <;> rfl
  have hopen : (start live limit σ).opened.get s = true := by cases s <;> rfl
  rw [prospect_of_open σ hopen, hcapture]
  simp only [refusal?_start_eq_none_iff]
  rfl

/-- A drain comes to its end only by reading the end of both streams, and within the limit. -/
theorem ends_of_run_ended {live : Bool} {limit : Option CaptureLimit} {σ : Schedule}
    (h : ((start live limit σ).run n deadline).1 = .ended) (s : Stream) :
    σ.endOf s = .eof ∧ CaptureLimit.refuses limit (σ.outputOf s).length = false := by
  have hs := (run_prospect (sound_start live limit σ) n deadline σ).1 h s
  rw [prospect_start] at hs
  split at hs
  · assumption
  · contradiction

/-- **The product law.**  In whatever order the streams become readable, and however many
    octets are read at a time: the drain comes to its end if and only if each stream on its own
    ends by its end being read, without passing a limit that fails.  What is then captured of a
    stream and the lines forwarded from it are those of one capture that records the output of
    this stream up to its end, however cut into chunks, and is finished once. -/
theorem run_start_product (n : Nat) (live : Bool) (limit : Option CaptureLimit) (σ : Schedule) :
    let r := (start live limit σ).run n none
    (r.1 = .ended ↔
      ∀ s, σ.endOf s = .eof ∧ CaptureLimit.refuses limit (σ.outputOf s).length = false) ∧
    (r.1 = .ended → ∀ s chunks, chunks.flatten = σ.outputOf s →
      ∃ emissions,
        (Capture.start s live limit).recordToEnd chunks =
          ⟨r.2.captures.get s, emissions, .ok ()⟩ ∧
        Emission.linesFrom s r.2.emitted = Emission.linesFrom s emissions) := by
  intro r
  have hrun : Fulfils none ((start live limit σ).prospect σ) r :=
    run_prospect (sound_start live limit σ) n none σ
  refine ⟨⟨ends_of_run_ended, fun hall => hrun.2 rfl fun s => ?_⟩, ?_⟩
  · rw [prospect_start, if_pos (hall s)]
    rfl
  · intro hended s chunks hchunks
    have hends := ends_of_run_ended hended s
    have hs := hrun.1 hended s
    rw [prospect_start, if_pos hends, Option.some.injEq, Prod.mk.injEq] at hs
    obtain ⟨hcapture, hlines⟩ := hs
    have hrefusal : (Capture.start s live limit).refusal? chunks.flatten = none :=
      hchunks ▸ refusal?_start_eq_none_iff.2 hends.2
    refine ⟨_, ?_, hlines.symm⟩
    rw [recordToEnd, recordAll_of_not_refusal (fits_start s live limit) hrefusal, hchunks,
      ← hcapture]

/-- Standard output is cut by a line of standard error, loses its first octet to the limit, and
    goes on after its end in vain. -/
theorem run_start_product_interleaved :
    let σ : Schedule := [.data .stdout [97, 10], .data .stderr [99, 10], .data .stdout [98],
      .eof .stdout, .data .stdout [100]]
    let r := (start true (some ⟨2, .dropOldest⟩) σ).run 1 none
    r.1 = .ended ∧ (r.2.captures.get .stdout).bytes = [10, 98] ∧
      (r.2.captures.get .stdout).dropped = 1 ∧
      Emission.linesFrom .stdout r.2.emitted = ["a", "b"] := by
  intro σ r
  obtain ⟨hends, halone⟩ := run_start_product 1 true (some ⟨2, .dropOldest⟩) σ
  have hended : r.1 = .ended := hends.2 fun s => by cases s <;> decide
  obtain ⟨emissions, hrecord, hlines⟩ := halone hended .stdout [[97], [10, 98]] rfl
  let alone := (Capture.start .stdout true (some ⟨2, .dropOldest⟩)).recordToEnd [[97], [10, 98]]
  have hvalue : alone.capture.bytes = [10, 98] ∧ alone.capture.dropped = 1 ∧
      Emission.linesFrom .stdout alone.emitted = ["a", "b"] := by decide
  rw [show alone = _ from hrecord] at hvalue
  exact ⟨hended, hvalue.1, hvalue.2.1, hlines.trans hvalue.2.2⟩

end Drain

end Outflow
