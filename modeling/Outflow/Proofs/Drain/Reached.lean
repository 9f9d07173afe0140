import Outflow.Proofs.Drain.Course
import Outflow.Proofs.Drain.Step

/-!
# What a drain has read, and what it shows of it

`Reached` tells which states a drain can come to, look by look, and which chunks it has read on
the way there.  In each of them the captures hold exactly what was read, the lines that were
forwarded are exactly the complete lines of it, and what follows the last newline is held back
until the stream ends (`Exact`).

Every run ends in a state that it has reached, and a look that fails there has added nothing to
it (`exists_stops`).
-/

namespace Outflow

namespace Capture

open CaptureLimit

/-! ### A new capture that forwards lines -/

/-- The lines that a new capture forwards of some octets. -/
theorem linesFrom_completed_start (s : Stream) (limit : Option CaptureLimit) (bytes : Bytes) :
    Emission.linesFrom s ((start s true limit).completed bytes) = bytes.completeLines := by
  have hlines : (LineBuffer.empty.push bytes).1 = bytes.completeLines := by
    rw [LineBuffer.push_lines bytes (by simp)]
    simp
  simp [completed, start, linesFrom_map_line, hlines]

/-- What a new capture holds back of some octets. -/
theorem pending_recorded_start (s : Stream) (limit : Option CaptureLimit) (bytes : Bytes) :
    ((start s true limit).recorded bytes).lines.map LineBuffer.pending =
      some bytes.afterNewline := by
  have hpending : (LineBuffer.empty.push bytes).2.pending = bytes.afterNewline := by
    rw [LineBuffer.push_pending bytes (by simp)]
    simp
  simp [recorded, start, hpending]

/-- The last line of a stream is what was held back, unless that is nothing. -/
theorem linesFrom_finish_of_pending {c : Capture} {bytes : Bytes}
    (h : c.lines.map LineBuffer.pending = some bytes) :
    Emission.linesFrom c.source c.finish.2 = if bytes = [] then [] else [bytes.text] := by
  obtain ⟨b, hb, rfl⟩ := Option.map_eq_some_iff.1 h
  have hnote : Emission.linesFrom c.source c.lossNote = [] := by
    unfold lossNote
    split <;> rfl
  have hlast : c.lastLine = b.flush.1.toList.map (.line c.source) := by
    simp only [lastLine, hb]
  rw [finish, Emission.linesFrom_append, hnote, List.append_nil, hlast, linesFrom_map_line,
    if_pos rfl, LineBuffer.flush_fst]
  split <;> rfl

end Capture

namespace Schedule

/-- What an event has left is output like any other, unless nothing is left. -/
theorem outputOf_left (s t : Stream) (more : Bytes) (rest : Schedule) :
    outputOf s (if more = [] then rest else .data t more :: rest) =
      if t = s then more ++ outputOf s rest else outputOf s rest := by
  by_cases hmore : more = [] <;> by_cases ht : t = s <;> simp [outputOf, hmore, ht]

end Schedule

namespace Drain

open Capture CaptureLimit Schedule

variable {n : Nat} {deadline : Option Nat} {live : Bool} {limit : Option CaptureLimit}
  {σ rest : Schedule} {reads : Chunks} {origin d next : Drain} {s : Stream} {chunk : Bytes}

/-! ### States that a drain comes to -/

/-- What the next look reads, if the next event is output of an open stream. -/
def nextRead (n : Nat) (d : Drain) : Chunks :=
  match d.pending with
  | .data s bytes :: _ =>
    if d.opened.get s ∧ bytes ≠ [] then [(s, bytes.take (max n 1))] else []
  | _ => []

theorem nextRead_of_nil (hp : d.pending = []) : d.nextRead n = [] := by
  simp [nextRead, hp]

theorem nextRead_of_closed {e : Event} (hp : d.pending = e :: rest) (he : e.stream? = some s)
    (ho : d.opened.get s = false) : d.nextRead n = [] := by
  cases e <;> simp_all [nextRead, Event.stream?]

theorem nextRead_of_end {e : Event} (hp : d.pending = e :: rest)
    (he : e = .eof s ∨ e = .data s []) : d.nextRead n = [] := by
  obtain rfl | rfl := he <;> simp [nextRead, hp]

theorem nextRead_of_data {bytes : Bytes} (hp : d.pending = .data s bytes :: rest)
    (ho : d.opened.get s = true) (hb : bytes ≠ []) :
    d.nextRead n = [(s, bytes.take (max n 1))] := by
  simp [nextRead, hp, ho, hb]

/-- A drain has come from its start to this state, reading these chunks on the way.  No look has
    failed, and no deadline has come. -/
inductive Reached (n : Nat) (origin : Drain) : Chunks → Drain → Prop where
  | origin : Reached n origin [] origin
  | advanced {reads : Chunks} {d next : Drain} (h : Reached n origin reads d)
    (hstep : d.step n = .advanced next) : Reached n origin (reads ++ d.nextRead n) next
  | waiting {reads : Chunks} {ms : Nat} {d next : Drain} (h : Reached n origin reads d)
    (hstep : d.step n = .waiting ms next) : Reached n origin reads next

/-- What has been captured of each stream, and forwarded from it, is what one capture makes of
    the octets that were read from this stream. -/
structure Holds (live : Bool) (limit : Option CaptureLimit) (reads : Chunks) (d : Drain) :
    Prop where
  capture : ∀ s, d.captures.get s =
    if d.opened.get s then (Capture.start s live limit).recorded (reads.octetsOf s)
    else ((Capture.start s live limit).recorded (reads.octetsOf s)).finish.1
  lines : ∀ s, Emission.linesFrom s d.emitted =
    Emission.linesFrom s ((Capture.start s live limit).completed (reads.octetsOf s)) ++
      if d.opened.get s then []
      else Emission.linesFrom s ((Capture.start s live limit).recorded (reads.octetsOf s)).finish.2
  accepted : ∀ s, refuses limit (reads.octetsOf s).length = false

/-- No limit refuses nothing. -/
theorem refuses_nil (limit : Option CaptureLimit) : refuses limit ([] : Bytes).length = false :=
  refusal?_start_eq_none_iff.1 (refusal?_nil (fits_start .stdout false limit))

theorem holds_start (live : Bool) (limit : Option CaptureLimit) (σ : Schedule) :
    Holds live limit [] (start live limit σ) where
  capture s := by
    rw [Chunks.octetsOf_nil, recorded_nil (fits_start s live limit)]
    cases s <;> rfl
  lines s := by
    rw [Chunks.octetsOf_nil, completed_nil]
    cases s <;> rfl
  accepted _ := refuses_nil limit

theorem holds_idle (live : Bool) (limit : Option CaptureLimit) :
    Holds live limit [] (idle live limit) where
  capture s := by
    rw [Chunks.octetsOf_nil, recorded_nil (fits_start s live limit)]
    cases s <;> cases live <;> rfl
  lines s := by
    rw [Chunks.octetsOf_nil, completed_nil, recorded_nil (fits_start s live limit)]
    cases s <;> cases live <;> rfl
  accepted _ := refuses_nil limit

namespace Holds

theorem capture_of_open (h : Holds live limit reads d) (ho : d.opened.get s = true) :
    d.captures.get s = (Capture.start s live limit).recorded (reads.octetsOf s) := by
  rw [h.capture s, if_pos ho]

theorem source_ne {t : Stream} (h : Holds live limit reads d) (ht : t ≠ s) :
    (d.captures.get s).source ≠ t := by
  have hsource : (d.captures.get s).source = s := by
    rw [h.capture s]
    split <;> rfl
  rw [hsource]
  exact ht.symm

theorem close (h : Holds live limit reads d) (ho : d.opened.get s = true) :
    Holds live limit reads (d.close s) where
  capture t := by
    by_cases ht : t = s
    · subst ht
      simp [h.capture_of_open ho]
    · simp [capture_close_of_ne d ht, opened_close_of_ne d ht, h.capture]
  lines t := by
    rw [emitted_close, Emission.linesFrom_append, h.lines]
    by_cases ht : t = s
    · subst ht
      simp [ho, h.capture_of_open ho]
    · rw [linesFrom_finish (h.source_ne ht), List.append_nil, opened_close_of_ne d ht]
  accepted := h.accepted

theorem recorded (h : Holds live limit reads d) (ho : d.opened.get s = true)
    (hr : (d.captures.get s).refusal? chunk = none) :
    Holds live limit (reads ++ [(s, chunk)]) (d.recorded s chunk) where
  capture t := by
    by_cases ht : t = s
    · subst ht
      simp [ho, h.capture_of_open ho, Capture.recorded_append]
    · simp [capture_recorded_of_ne d chunk ht, h.capture, Chunks.octetsOf_singleton_of_ne chunk ht]
  lines t := by
    rw [emitted_recorded, Emission.linesFrom_append, h.lines]
    by_cases ht : t = s
    · subst ht
      simp [ho, h.capture_of_open ho, completed_append]
    · simp [linesFrom_completed chunk (h.source_ne ht), Chunks.octetsOf_singleton_of_ne chunk ht]
  accepted t := by
    by_cases ht : t = s
    · subst ht
      rw [h.capture_of_open ho, refusal?_recorded_start chunk (h.accepted t),
        refusal?_start_eq_none_iff] at hr
      simpa using hr
    · simpa [Chunks.octetsOf_singleton_of_ne chunk ht] using h.accepted t

/-- It does not depend on what is still to come, nor on the time. -/
theorem move (h : Holds live limit reads d) (σ : Schedule) (time : Nat) :
    Holds live limit reads { d with pending := σ, clock := time } where
  capture := h.capture
  lines := h.lines
  accepted := h.accepted

/-- What a look reads is held. -/
theorem advanced (h : Holds live limit reads d) (hstep : d.step n = .advanced next) :
    Holds live limit (reads ++ d.nextRead n) next := by
  have hlook := look n d
  rw [hstep] at hlook
  cases hlook with
  | runsOut hp ho =>
    rw [nextRead_of_nil hp, List.append_nil]
    exact h.close ho
  | @passed e t rest hp he ho =>
    rw [nextRead_of_closed hp he ho, List.append_nil]
    exact h.move rest d.clock
  | @ends e t rest hp he ho =>
    rw [nextRead_of_end hp he, List.append_nil]
    exact (h.close ho).move rest d.clock
  | @output t bytes rest hp ho hb hr =>
    rw [nextRead_of_data hp ho hb]
    exact (h.recorded ho hr).move _ d.clock

theorem waiting {ms : Nat} (h : Holds live limit reads d) (hstep : d.step n = .waiting ms next) :
    Holds live limit reads next := by
  have hlook := look n d
  rw [hstep] at hlook
  cases hlook with
  | @delay _ rest hp hs => exact h.move rest (d.clock + ms)

end Holds

/-! ### What is still to come -/

/-- What a stream is still to let out. -/
def toCome (d : Drain) (s : Stream) : Bytes :=
  if d.opened.get s then outputOf s d.pending else []

theorem toCome_of_open (ho : d.opened.get s = true) : d.toCome s = outputOf s d.pending := if_pos ho

theorem toCome_of_closed (ho : d.opened.get s = false) : d.toCome s = [] := if_neg (by simp [ho])

theorem toCome_congr (ho : d.opened.get s = next.opened.get s)
    (hout : outputOf s d.pending = outputOf s next.pending) : d.toCome s = next.toCome s := by
  rw [toCome, toCome, ho, hout]

/-- What a look reads is what comes first of what is still to come. -/
theorem toCome_advanced (hstep : d.step n = .advanced next) (s : Stream) :
    d.toCome s = (d.nextRead n).octetsOf s ++ next.toCome s := by
  have hlook := look n d
  rw [hstep] at hlook
  cases hlook with
  | @runsOut t hp ho =>
    rw [nextRead_of_nil hp]
    by_cases hs : s = t
    · subst hs
      rw [toCome_of_open ho, toCome_of_closed (opened_close d), hp]
      rfl
    · exact toCome_congr (opened_close_of_ne d hs).symm rfl
  | @passed e t rest hp he ho =>
    rw [nextRead_of_closed hp he ho]
    by_cases hs : s = t
    · subst hs
      rw [toCome_of_closed ho, toCome_of_closed (by exact ho)]
      rfl
    · exact toCome_congr rfl (hp ▸ outputOf_cons_of_ne rest he hs)
  | @ends e t rest hp he ho =>
    rw [nextRead_of_end hp he]
    by_cases hs : s = t
    · subst hs
      rw [toCome_of_open ho, toCome_of_closed (by exact opened_close d), hp]
      obtain rfl | rfl := he <;> simp [outputOf]
    · have hstream : e.stream? = some t := by obtain rfl | rfl := he <;> rfl
      exact toCome_congr (opened_close_of_ne d hs).symm (hp ▸ outputOf_cons_of_ne rest hstream hs)
  | @output t bytes rest hp ho hb hr =>
    have hread := nextRead_of_data (n := n) hp ho hb
    -- What the chunk leaves of its event is put back before the rest.
    by_cases hs : s = t
    · subst hs
      have hleft := outputOf_left s s (bytes.drop (max n 1)) rest
      rw [if_pos rfl] at hleft
      rw [toCome_of_open ho, toCome_of_open (by exact ho), hread, hp, Chunks.octetsOf_singleton,
        facing, hleft, ← List.append_assoc, List.take_append_drop]
      simp [outputOf, hb]
    · have hleft := outputOf_left s t (bytes.drop (max n 1)) rest
      rw [if_neg (Ne.symm hs)] at hleft
      rw [hread, Chunks.octetsOf_singleton_of_ne _ hs]
      exact toCome_congr rfl (hp ▸ (outputOf_cons_of_ne rest rfl hs).trans hleft.symm)

theorem toCome_waiting {ms : Nat} (hstep : d.step n = .waiting ms next) (s : Stream) :
    d.toCome s = next.toCome s := by
  have hlook := look n d
  rw [hstep] at hlook
  cases hlook with
  | @delay _ rest hp hs => exact toCome_congr rfl (hp ▸ rfl)

/-! ### Exactly what was read -/

/-- Of each stream exactly what was read has been captured, and exactly the lines that are
    complete have been forwarded: those before the last newline, and after the end of the stream
    what follows it as well. -/
structure Exact (limit : Option CaptureLimit) (σ : Schedule) (reads : Chunks) (d : Drain) :
    Prop where
  /-- What was read comes first of what the stream lets out. -/
  read : ∀ s, σ.outputOf s = reads.octetsOf s ++ d.toCome s
  bytes : ∀ s, (d.captures.get s).bytes = kept limit (reads.octetsOf s)
  dropped : ∀ s, (d.captures.get s).dropped = excess limit (reads.octetsOf s).length
  lines : ∀ s, Emission.linesFrom s d.emitted =
    if d.opened.get s then (reads.octetsOf s).completeLines else (reads.octetsOf s).allLines
  held : ∀ s, (d.captures.get s).lines.map LineBuffer.pending =
    some (if d.opened.get s then (reads.octetsOf s).afterNewline else [])

theorem Holds.toExact (h : Holds true limit reads d)
    (hread : ∀ s, σ.outputOf s = reads.octetsOf s ++ d.toCome s) : Exact limit σ reads d where
  read := hread
  bytes s := by
    have hbytes : ((Capture.start s true limit).recorded (reads.octetsOf s)).bytes =
        kept limit (reads.octetsOf s) := bytes_recorded_start (h.accepted s)
    rw [← hbytes, h.capture s]
    split <;> rfl
  dropped s := by
    have hdropped : ((Capture.start s true limit).recorded (reads.octetsOf s)).dropped =
        excess limit (reads.octetsOf s).length := by
      simp [Capture.recorded, Capture.start, Trail.empty]
    rw [← hdropped, h.capture s]
    split <;> rfl
  lines s := by
    -- At the end of a stream its capture lets out what it has held back until then.
    have hpending := pending_recorded_start s limit (reads.octetsOf s)
    have hfinish := linesFrom_finish_of_pending hpending
    rw [h.lines s, linesFrom_completed_start]
    split
    · rw [List.append_nil]
    · rw [Bytes.allLines, ← hfinish]
      rfl
  held s := by
    rw [h.capture s]
    split
    · exact pending_recorded_start s limit (reads.octetsOf s)
    · rw [finish, Option.map_map]
      have hlines := pending_recorded_start s limit (reads.octetsOf s)
      obtain ⟨b, hb, -⟩ := Option.map_eq_some_iff.1 hlines
      simp [hb]

namespace Reached

theorem holds (h : Reached n origin reads d) (horigin : Holds live limit [] origin) :
    Holds live limit reads d := by
  induction h with
  | origin => exact horigin
  | advanced h hstep ih => exact ih.advanced hstep
  | waiting h hstep ih => exact ih.waiting hstep

/-- What was read is what has come of what was still to come. -/
theorem toCome_origin (h : Reached n origin reads d) (s : Stream) :
    origin.toCome s = reads.octetsOf s ++ d.toCome s := by
  induction h with
  | origin => rfl
  | advanced h hstep ih =>
    rw [ih, toCome_advanced hstep, Chunks.octetsOf_append, List.append_assoc]
  | waiting h hstep ih => rw [ih, toCome_waiting hstep]

/-- **In every state that a drain comes to, exactly what it has read has been captured and
    forwarded.** -/
theorem toExact (h : Reached n origin reads d) (horigin : Holds true limit [] origin)
    (hσ : ∀ s, σ.outputOf s = origin.toCome s) : Exact limit σ reads d :=
  (h.holds horigin).toExact fun s => (hσ s).trans (h.toCome_origin s)

end Reached

/-! ### The end of a run -/

/-- A run stops in the last state that it has reached, at this time or at its deadline.  What fails
    there is the next look: it reads the stream that the error names, and adds nothing. -/
structure Stops (n : Nat) (limit : Option CaptureLimit) (reads : Chunks) (last : Drain)
    (ending : DrainEnd) (d : Drain) : Prop where
  still : d = { last with clock := d.clock }
  ended : ending = .ended → last.settled = true
  read : ∀ s source, ending = .failed (.read s source) →
    d = last ∧ last.opened.get s = true ∧ ∃ rest, last.pending = .fail s source :: rest
  overflow : ∀ o, ending = .failed (.overflow o) →
    d = last ∧ ∃ chunk, last.nextRead n = [(o.stream, chunk)] ∧
      limit = some ⟨o.maxBytes, .fail⟩ ∧
      o.maxBytes.toNat < (reads.octetsOf o.stream).length + chunk.length

namespace Stops

variable {last : Drain} {ending : DrainEnd}

theorem captures (h : Stops n limit reads last ending d) : d.captures = last.captures := by
  rw [h.still]

theorem opened (h : Stops n limit reads last ending d) : d.opened = last.opened := by
  rw [h.still]

theorem emitted (h : Stops n limit reads last ending d) : d.emitted = last.emitted := by
  rw [h.still]
  rfl

end Stops

theorem settled_of_step (hstep : d.step n = .ended) : d.settled = true := by
  have hlook := look n d
  rw [hstep] at hlook
  cases hlook with
  | ended hs => exact hs

/-- A look that fails does so by the next event. -/
theorem Holds.stops {error : DrainError} {left : Drain} (h : Holds live limit reads d)
    (hstep : d.step n = .failed error left) : Stops n limit reads d (.failed error) left := by
  have hlook := look n d
  rw [hstep] at hlook
  cases hlook with
  | @fails s source rest hp ho =>
    refine ⟨rfl, by simp, fun s' source' heq => ?_, by simp⟩
    simp only [DrainEnd.failed.injEq, DrainError.read.injEq] at heq
    obtain ⟨rfl, rfl⟩ := heq
    exact ⟨rfl, ho, rest, hp⟩
  | @overflow s bytes rest o hp ho hb hr =>
    refine ⟨rfl, by simp, by simp, fun o' heq => ?_⟩
    simp only [DrainEnd.failed.injEq, DrainError.overflow.injEq] at heq
    subst heq
    -- The capture refuses the chunk as a new one would all that was read together with it.
    rw [h.capture_of_open ho, refusal?_recorded_start _ (h.accepted s),
      refusal?_start_eq_some_iff] at hr
    obtain ⟨rfl, hlimit, hmax⟩ := hr
    exact ⟨rfl, bytes.take (max n 1), nextRead_of_data hp ho hb, hlimit, by simpa using hmax⟩

theorem stops_giveUp (d : Drain) :
    Stops n limit reads d (d.giveUp deadline).1 (d.giveUp deadline).2 := by
  cases deadline with
  | none => exact ⟨rfl, by simp [giveUp], by simp [giveUp], by simp [giveUp]⟩
  | some time => exact ⟨rfl, by simp [giveUp], by simp [giveUp], by simp [giveUp]⟩

/-- **Every run stops in a state that it has reached.** -/
theorem exists_stops (n : Nat) (deadline : Option Nat) (horigin : Holds live limit [] origin) :
    ∃ reads last, Reached n origin reads last ∧
      Stops n limit reads last (origin.run n deadline).1 (origin.run n deadline).2 := by
  -- The induction is on the looks that are left, so that it starts from any state reached.
  suffices hrun : ∀ d reads, Reached n origin reads d → ∃ reads last, Reached n origin reads last ∧
      Stops n limit reads last (d.run n deadline).1 (d.run n deadline).2 from
    hrun origin [] .origin
  intro d
  induction d using Drain.run.induct_unfolding n deadline with
  | case1 d hstep =>
    exact fun reads h => ⟨reads, d, h, rfl, fun _ => settled_of_step hstep, by simp, by simp⟩
  | case2 d error left hstep => exact fun reads h => ⟨reads, d, h, (h.holds horigin).stops hstep⟩
  | case3 d hstep => exact fun reads h => ⟨reads, d, h, stops_giveUp d⟩
  | case4 d next hstep ih => exact fun reads h => ih _ (h.advanced hstep)
  | case5 d ms next hstep hnext ih => exact fun reads h => ih _ (h.waiting hstep)
  | case6 d ms next hstep hnext => exact fun reads h => ⟨reads, d, h, stops_giveUp d⟩

end Drain

end Outflow
