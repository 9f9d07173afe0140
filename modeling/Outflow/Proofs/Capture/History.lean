import Mathlib.Data.List.DropRight
import Outflow.Proofs.Capture

/-!
# What a limit makes of a history

A capture is used any number of times, for chunks and for ends of the stream in any order
(`Use`).  It is used on as each use leaves it, after a refusal too.

Whatever its limit, a capture keeps what the limit leaves of the octets accepted so far and has
dropped the others (`Keeps`).  A limit that drops the oldest octets accepts every chunk, so it
keeps the last octets of the whole stream (`runUses_dropOldest`).  A limit that refuses keeps
everything that it has accepted, and a refused chunk might as well not have been there
(`runUses_fail`).
-/

namespace Outflow

namespace Capture

open CaptureLimit

/-! ### Histories -/

/-- One use of a capture. -/
inductive Use where
  | record (chunk : Bytes)
  /-- The stream has ended. -/
  | finish

/-- The octets that a use offers. -/
def Use.octets : Use → Bytes
  | record chunk => chunk
  | finish => []

/-- What a use gives back: the overflow if its chunk is refused, and what is let out. -/
structure Reply where
  overflow? : Option Overflow
  emitted : List Emission

/-- What one use gives back, and the capture after it. -/
def use (c : Capture) : Use → Reply × Capture
  | .record chunk =>
    match c.record chunk with
    | ⟨left, lines, .ok ()⟩ => (⟨none, lines⟩, left)
    | ⟨left, lines, .error o⟩ => (⟨some o, lines⟩, left)
  | .finish => (⟨none, c.finish.2⟩, c.finish.1)

/-- What a history of uses gives back, and the capture after it. -/
def runUses (c : Capture) : List Use → List Reply × Capture
  | [] => ([], c)
  | u :: us => ((c.use u).1 :: ((c.use u).2.runUses us).1, ((c.use u).2.runUses us).2)

/-- The octets that a history offers. -/
def offered (us : List Use) : Bytes := us.flatMap Use.octets

/-- The octets that were not refused. -/
def accepted (us : List Use) (replies : List Reply) : Bytes :=
  (us.zip replies).flatMap fun (u, r) => if r.overflow? = none then u.octets else []

variable {s : Stream} {limit : Option CaptureLimit} {c : Capture} {octets : Bytes}

theorem runUses_append (c : Capture) (us vs : List Use) :
    c.runUses (us ++ vs) =
      ((c.runUses us).1 ++ ((c.runUses us).2.runUses vs).1, ((c.runUses us).2.runUses vs).2) := by
  induction us generalizing c with
  | nil => rfl
  | cons u us ih => simp only [List.cons_append, runUses, ih]

@[simp] theorem length_runUses (c : Capture) (us : List Use) :
    (c.runUses us).1.length = us.length := by
  induction us generalizing c with
  | nil => rfl
  | cons u us ih => simp [runUses, ih]

theorem accepted_cons (u : Use) (us : List Use) (r : Reply) (rs : List Reply) :
    accepted (u :: us) (r :: rs) =
      (if r.overflow? = none then u.octets else []) ++ accepted us rs := rfl

/-! ### One use -/

theorem use_record_of_refusal {chunk : Bytes} {o : Overflow} (h : c.refusal? chunk = some o) :
    c.use (.record chunk) = (⟨some o, []⟩, c) := by
  rw [use, record_of_refusal h]

theorem use_record_of_not_refusal {chunk : Bytes} (h : c.refusal? chunk = none) :
    c.use (.record chunk) = (⟨none, c.completed chunk⟩, c.recorded chunk) := by
  rw [use, record_of_not_refusal h]

/-- A use is refused if its chunk is. -/
theorem overflow?_use_record (c : Capture) (chunk : Bytes) :
    (c.use (.record chunk)).1.overflow? = c.refusal? chunk := by
  cases h : c.refusal? chunk with
  | some o => rw [use_record_of_refusal h]
  | none => rw [use_record_of_not_refusal h]

theorem size_kept (c : Capture) : c.kept.size = c.bytes.length :=
  (Trail.length_toList c.kept).symm

/-! ### What a limit leaves -/

/-- A capture keeps what its limit leaves of some octets, and counts the others as dropped. -/
structure Keeps (s : Stream) (limit : Option CaptureLimit) (octets : Bytes) (c : Capture) :
    Prop where
  source : c.source = s
  limit_eq : c.limit = limit
  kept : c.kept = bound limit (.ofList octets)
  dropped : c.dropped = excess limit octets.length
  /-- Nothing of them was too much. -/
  accepted : refuses limit octets.length = false

theorem keeps_start (s : Stream) (live : Bool) (limit : Option CaptureLimit) :
    Keeps s limit [] (start s live limit) := by
  refine ⟨rfl, rfl, ?_, ?_, ?_⟩
  · cases limit with
    | none => rfl
    | some limit => exact (Trail.takeLast_of_le (Nat.zero_le _)).symm
  · cases limit with
    | none => rfl
    | some limit => exact (Nat.zero_sub _).symm
  · rcases limit with _ | ⟨maxBytes, _ | _⟩ <;> rfl

namespace Keeps

/-- A chunk that is not refused is kept like the octets before it. -/
theorem recorded (h : Keeps s limit octets c) {chunk : Bytes} (hr : c.refusal? chunk = none) :
    Keeps s limit (octets ++ chunk) (c.recorded chunk) := by
  have happend : (Trail.ofList octets).append chunk = .ofList (octets ++ chunk) :=
    Trail.ext_toList (by simp)
  have hsize : (Trail.ofList octets).size = octets.length := rfl
  -- What the limit has left already has the same end as all octets together.
  refine ⟨h.source, h.limit_eq, ?_, ?_, ?_⟩
  · have hkept := bound_append_bound limit (.ofList octets) chunk
    rw [happend, ← h.kept] at hkept
    rw [← hkept, ← h.limit_eq]
    rfl
  · have hdropped := excess_add limit (.ofList octets) chunk.length
    rw [hsize, ← h.kept, ← h.dropped] at hdropped
    rw [List.length_append, ← hdropped, ← h.limit_eq]
    rfl
  · have hrefuses : refuses limit (c.kept.size + chunk.length) =
        refuses limit (octets.length + chunk.length) := by
      rw [h.kept]
      exact refuses_size_bound chunk.length h.accepted
    rw [List.length_append, ← hrefuses, ← h.limit_eq]
    exact refusal?_eq_none_iff.1 hr

/-- The end of a stream changes nothing of what is kept. -/
theorem finish (h : Keeps s limit octets c) : Keeps s limit octets c.finish.1 :=
  ⟨h.source, h.limit_eq, h.kept, h.dropped, h.accepted⟩

/-- What a use adds to the octets kept is what it offers, unless that is refused. -/
theorem use (h : Keeps s limit octets c) (u : Use) :
    Keeps s limit (octets ++ if (c.use u).1.overflow? = none then u.octets else [])
      (c.use u).2 := by
  cases u with
  | record chunk =>
    cases hr : c.refusal? chunk with
    | some o =>
      rw [use_record_of_refusal hr]
      simpa using h
    | none =>
      rw [use_record_of_not_refusal hr]
      exact h.recorded hr
  | finish => simpa [Capture.use, Use.octets] using h.finish

/-- **Any history keeps what the limit leaves of the octets that it accepts.** -/
theorem runUses (h : Keeps s limit octets c) (us : List Use) :
    Keeps s limit (octets ++ Capture.accepted us (c.runUses us).1) (c.runUses us).2 := by
  induction us generalizing c octets with
  | nil => simpa [Capture.runUses, Capture.accepted] using h
  | cons u us ih =>
    rw [Capture.runUses, accepted_cons, ← List.append_assoc]
    exact ih (h.use u)

end Keeps

theorem keeps_runUses (s : Stream) (live : Bool) (limit : Option CaptureLimit) (us : List Use) :
    Keeps s limit (accepted us ((start s live limit).runUses us).1)
      ((start s live limit).runUses us).2 := by
  simpa using (keeps_start s live limit).runUses us

/-! ### Dropping the oldest octets -/

variable {max : UInt64} {strategy : OverflowStrategy}

/-- What is kept are the last octets. -/
theorem Keeps.bytes_eq (h : Keeps s (some ⟨max, strategy⟩) octets c) :
    c.bytes = octets.rtake max.toNat := by
  rw [bytes, h.kept, bound, Trail.toList_takeLast, Trail.toList_ofList]
  rfl

/-- How many octets were dropped. -/
theorem Keeps.dropped_eq (h : Keeps s (some ⟨max, strategy⟩) octets c) :
    c.dropped = octets.length - max.toNat :=
  h.dropped

theorem bytes_recorded_of_limit (h : c.limit = some ⟨max, strategy⟩) (chunk : Bytes) :
    (c.recorded chunk).bytes = (c.bytes ++ chunk).rtake max.toNat := by
  simp only [recorded, bytes, h, bound, Trail.toList_takeLast, Trail.toList_append,
    Trail.size_append, List.rtake, List.length_append, Trail.length_toList]

theorem dropped_recorded_of_limit (h : c.limit = some ⟨max, strategy⟩) (chunk : Bytes) :
    (c.recorded chunk).dropped = c.dropped + (c.bytes.length + chunk.length - max.toNat) := by
  simp only [recorded, h, excess, size_kept]

/-- The log of an end tells what the limit cost, if it cost anything. -/
theorem Keeps.logs_finish (h : Keeps s limit octets c) :
    Emission.logs (c.use .finish).1.emitted =
      if c.dropped = 0 then []
      else [⟨.warn, .capture,
        s!"Discarded {c.dropped} bytes of {s.name} beyond the capture limit", none⟩] := by
  rw [Capture.use, Capture.logs_finish, lossNote, h.source]
  split <;> rfl

/-- Dropping the oldest octets makes room for any chunk. -/
theorem refusal?_of_dropOldest (h : c.limit = some ⟨max, .dropOldest⟩) (chunk : Bytes) :
    c.refusal? chunk = none := by
  rw [refusal?_eq_none_iff, h]
  rfl

theorem overflow?_use_of_dropOldest (h : c.limit = some ⟨max, .dropOldest⟩) (u : Use) :
    (c.use u).1.overflow? = none := by
  cases u with
  | record chunk => rw [overflow?_use_record, refusal?_of_dropOldest h]
  | finish => rfl

@[simp] theorem limit_use (c : Capture) (u : Use) : (c.use u).2.limit = c.limit := by
  cases u with
  | record chunk =>
    cases h : c.refusal? chunk with
    | some o => rw [use_record_of_refusal h]
    | none => rw [use_record_of_not_refusal h, recorded_limit]
  | finish => rfl

theorem overflow?_runUses_of_dropOldest (h : c.limit = some ⟨max, .dropOldest⟩) (us : List Use) :
    ∀ r ∈ (c.runUses us).1, r.overflow? = none := by
  induction us generalizing c with
  | nil => simp [runUses]
  | cons u us ih =>
    intro r hr
    rw [runUses, List.mem_cons] at hr
    rcases hr with rfl | hr
    · exact overflow?_use_of_dropOldest h u
    · exact ih ((limit_use c u).trans h) r hr

/-- A history in which nothing is refused accepts all that it offers. -/
theorem accepted_eq_offered {us : List Use} {rs : List Reply} (hlen : rs.length = us.length)
    (h : ∀ r ∈ rs, r.overflow? = none) : accepted us rs = offered us := by
  induction us generalizing rs with
  | nil => rfl
  | cons u us ih =>
    cases rs with
    | nil => simp at hlen
    | cons r rs =>
      rw [accepted_cons, if_pos (h r List.mem_cons_self),
        ih (Nat.succ.inj hlen) fun r hr => h r (List.mem_cons_of_mem _ hr)]
      rfl

/-! #### Slice by slice -/

/-- A difference that must not be negative. -/
def minus? (m n : Nat) : Option Nat := if n ≤ m then some (m - n) else none

/-- The octets from a place on, which must not be beyond their end. -/
def octetsFrom? (bs : Bytes) (n : Nat) : Option Bytes :=
  if n ≤ bs.length then some (bs.drop n) else none

/-- Make room for a chunk by taking what is too much from the octets held, and from the chunk
    only what these do not make up for.  Gives the octets held then, and how many went. -/
def makeRoom? (max : Nat) (held chunk : Bytes) : Option (Bytes × Nat) := do
  let excess ← minus? (held.length + chunk.length) max
  if held.length ≤ excess then
    let skip ← minus? excess held.length
    let rest ← octetsFrom? chunk skip
    return (rest, excess)
  else
    let rest ← octetsFrom? held excess
    return (rest ++ chunk, excess)

/-- Every difference and every slice is in range, and the last octets are what is left. -/
theorem makeRoom?_eq {max : Nat} {held chunk : Bytes} (h : max < held.length + chunk.length) :
    makeRoom? max held chunk =
      some ((held ++ chunk).rtake max, held.length + chunk.length - max) := by
  have hexcess : minus? (held.length + chunk.length) max =
      some (held.length + chunk.length - max) := if_pos h.le
  rw [List.rtake, List.length_append, List.drop_append, makeRoom?, hexcess, Option.bind_eq_bind,
    Option.bind_some]
  generalize hgone : held.length + chunk.length - max = excess
  by_cases hheld : held.length ≤ excess
  · -- Nothing that is held stays, and the chunk goes in part if that is not enough.
    have hskip : minus? excess held.length = some (excess - held.length) := if_pos hheld
    have hrest : octetsFrom? chunk (excess - held.length) =
        some (chunk.drop (excess - held.length)) := if_pos (by omega)
    simp [hheld, hskip, hrest]
  · -- The chunk stays as a whole.
    have hrest : octetsFrom? held excess = some (held.drop excess) := if_pos (by omega)
    have hchunk : excess - held.length = 0 := by omega
    simp [hheld, hrest, hchunk]

/-- **A limit that drops the oldest octets keeps the last ones of the whole stream.**  After any
    history nothing has been refused, the last octets offered are kept, as many as the limit lets
    be, and the others are counted.  What the next chunk is too much is got rid of by slices that
    are all in range, and an end of the stream says how many octets are gone if there are any. -/
theorem runUses_dropOldest (s : Stream) (live : Bool) (max : UInt64) (us : List Use) :
    let replies := ((start s live (some ⟨max, .dropOldest⟩)).runUses us).1
    let c := ((start s live (some ⟨max, .dropOldest⟩)).runUses us).2
    let total := (offered us).length
    (∀ r ∈ replies, r.overflow? = none) ∧
    c.bytes = (offered us).rtake (min total max.toNat) ∧
    c.dropped = total - min total max.toNat ∧
    (∀ chunk, max.toNat < c.bytes.length + chunk.length →
      let next := (c.use (.record chunk)).2
      makeRoom? max.toNat c.bytes chunk = some (next.bytes, next.dropped - c.dropped)) ∧
    Emission.logs (c.use .finish).1.emitted =
      if c.dropped = 0 then []
      else [⟨.warn, .capture,
        s!"Discarded {c.dropped} bytes of {s.name} beyond the capture limit", none⟩] := by
  intro replies c total
  have haccepts : ∀ r ∈ replies, r.overflow? = none := overflow?_runUses_of_dropOldest rfl us
  have hkeeps : Keeps s (some ⟨max, .dropOldest⟩) (offered us) c := by
    have hkeeps := keeps_runUses s live (some ⟨max, .dropOldest⟩) us
    rwa [accepted_eq_offered (length_runUses _ us) haccepts] at hkeeps
  have hmin : total - min total max.toNat = total - max.toNat := by omega
  refine ⟨haccepts, ?_, ?_, fun chunk hchunk => ?_, hkeeps.logs_finish⟩
  · rw [hkeeps.bytes_eq, List.rtake, List.rtake, hmin]
  · rw [hkeeps.dropped_eq, hmin]
  · have hnone : c.refusal? chunk = none := refusal?_of_dropOldest hkeeps.limit_eq chunk
    have hdropped : (c.recorded chunk).dropped - c.dropped =
        c.bytes.length + chunk.length - max.toNat := by
      rw [dropped_recorded_of_limit hkeeps.limit_eq, Nat.add_sub_cancel_left]
    intro next
    have hnext : next = c.recorded chunk := by simp only [next, use_record_of_not_refusal hnone]
    rw [makeRoom?_eq hchunk, hnext, bytes_recorded_of_limit hkeeps.limit_eq, hdropped]

/-- A chunk that pushes out a part of what is held, and one that is too much by itself. -/
theorem runUses_dropOldest_four :
    let us : List Use := [.record [97, 98, 99], .record [100, 101], .record [48, 49, 50, 51, 52]]
    let c := ((start .stdout false (some ⟨4, .dropOldest⟩)).runUses us).2
    c.bytes = [49, 50, 51, 52] ∧ c.dropped = 6 ∧
    makeRoom? 4 c.bytes [53] = some ([50, 51, 52, 53], 1) := by
  intro us c
  obtain ⟨-, hbytes, hdropped, hroom, -⟩ := runUses_dropOldest .stdout false 4 us
  exact ⟨hbytes, hdropped, hroom [53] (by decide)⟩

/-! ### Refusing what is too much -/

/-- A chunk is refused exactly if it would take the octets kept beyond the limit. -/
theorem refusal?_of_fail (h : c.limit = some ⟨max, .fail⟩) (chunk : Bytes) :
    c.refusal? chunk =
      if max.toNat < c.bytes.length + chunk.length then some ⟨c.source, max⟩ else none := by
  simp only [refusal?, h, refuses, size_kept, decide_eq_true_eq]

/-- A limit that refuses has nothing to drop. -/
theorem Keeps.bytes_eq_of_fail (h : Keeps s (some ⟨max, .fail⟩) octets c) :
    octets.length ≤ max.toNat ∧ c.bytes = octets ∧ c.dropped = 0 := by
  have hle : octets.length ≤ max.toNat := by simpa [refuses] using h.accepted
  refine ⟨hle, ?_, ?_⟩
  · rw [h.bytes_eq, List.rtake, Nat.sub_eq_zero_of_le hle, List.drop_zero]
  · rw [h.dropped_eq, Nat.sub_eq_zero_of_le hle]

/-- A use that leaves the capture as it is might as well not have been there. -/
theorem runUses_passed_over {us : List Use} {u : Use} (after : List Use)
    (h : ((c.runUses us).2.use u).2 = (c.runUses us).2) :
    (c.runUses (us ++ u :: after)).1.eraseIdx us.length = (c.runUses (us ++ after)).1 ∧
    (c.runUses (us ++ u :: after)).2 = (c.runUses (us ++ after)).2 := by
  have hlen : us.length = (c.runUses us).1.length := (length_runUses c us).symm
  rw [runUses_append, runUses_append, runUses, h]
  refine ⟨?_, rfl⟩
  rw [hlen, List.eraseIdx_append_of_length_le le_rfl, Nat.sub_self, List.eraseIdx_cons_zero]

/-- **A chunk that is refused leaves no trace.**  After any history, refusals included, a chunk is
    refused exactly if it would take the octets kept beyond the limit.  It then lets nothing out
    and leaves the capture as it is, so that whatever follows goes as if it had not been offered.
    What is kept are the octets accepted so far, never more than the limit lets be, and nothing
    is ever dropped.  Chunks that are recorded up to the first refusal meet with one exactly if
    they are too much together, however they are cut. -/
theorem runUses_fail (s : Stream) (live : Bool) (max : UInt64) (us : List Use) :
    let capture := start s live (some ⟨max, .fail⟩)
    let replies := (capture.runUses us).1
    let c := (capture.runUses us).2
    (∀ chunk o, (c.use (.record chunk)).1.overflow? = some o ↔
      max.toNat < c.bytes.length + chunk.length ∧ o = ⟨s, max⟩) ∧
    (∀ chunk after, max.toNat < c.bytes.length + chunk.length →
      c.use (.record chunk) = (⟨some ⟨s, max⟩, []⟩, c) ∧
      (capture.runUses (us ++ .record chunk :: after)).1.eraseIdx us.length =
        (capture.runUses (us ++ after)).1 ∧
      (capture.runUses (us ++ .record chunk :: after)).2 = (capture.runUses (us ++ after)).2) ∧
    c.bytes = accepted us replies ∧ c.bytes.length ≤ max.toNat ∧ c.dropped = 0 ∧
    ∀ chunks o, (capture.recordAll chunks).result = .error o ↔
      max.toNat < chunks.flatten.length ∧ o = ⟨s, max⟩ := by
  intro capture replies c
  have hkeeps : Keeps s (some ⟨max, .fail⟩) (accepted us replies) c :=
    keeps_runUses s live (some ⟨max, .fail⟩) us
  obtain ⟨hle, hbytes, hdropped⟩ := hkeeps.bytes_eq_of_fail
  have hrefusal : ∀ chunk, c.refusal? chunk =
      if max.toNat < c.bytes.length + chunk.length then some ⟨s, max⟩ else none := by
    intro chunk
    rw [refusal?_of_fail hkeeps.limit_eq, hkeeps.source]
  refine ⟨fun chunk o => ?_, fun chunk after hchunk => ?_, hbytes, hbytes ▸ hle, hdropped,
    fun chunks o => ?_⟩
  · rw [overflow?_use_record, hrefusal, Option.ite_none_right_eq_some, Option.some.injEq, eq_comm]
  · have huse : c.use (.record chunk) = (⟨some ⟨s, max⟩, []⟩, c) :=
      use_record_of_refusal (by rw [hrefusal, if_pos hchunk])
    exact ⟨huse, runUses_passed_over after (congrArg Prod.snd huse)⟩
  · have hstart : capture.refusal? chunks.flatten =
        if max.toNat < chunks.flatten.length then some ⟨s, max⟩ else none := by
      rw [refusal?_of_fail rfl]
      simp [capture, start, bytes]
    have hfits : capture.Fits := fits_start _ _ _
    by_cases htotal : max.toNat < chunks.flatten.length
    · rw [if_pos htotal] at hstart
      rw [result_recordAll_of_refusal hfits hstart, Except.error.injEq, and_iff_right htotal,
        eq_comm]
    · rw [if_neg htotal] at hstart
      simp only [recordAll_of_not_refusal hfits hstart, reduceCtorEq, htotal, false_and]

/-- The capture is used on after a refusal, and an end of the stream comes between. -/
theorem runUses_fail_four :
    let capture := start .stderr true (some ⟨4, .fail⟩)
    let us : List Use := [.record [97, 98], .record [99, 10, 100], .finish, .record [99, 10]]
    let c := (capture.runUses us).2
    c.bytes = [97, 98, 99, 10] ∧
    c.use (.record [101]) = (⟨some ⟨.stderr, 4⟩, []⟩, c) ∧
    (capture.recordAll [[97, 98], [99, 10, 100]]).result = .error ⟨.stderr, 4⟩ := by
  intro capture us c
  obtain ⟨-, hpassed, hbytes, -, -, hall⟩ := runUses_fail .stderr true 4 us
  exact ⟨hbytes, (hpassed [101] [] (by decide)).1, (hall _ _).2 ⟨by decide, rfl⟩⟩

end Capture

end Outflow
