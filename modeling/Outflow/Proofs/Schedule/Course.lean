import Outflow.Drain
import Outflow.Proofs.Capture
import Outflow.Proofs.Schedule

/-!
# The course that a schedule takes

`Course` tells from a schedule alone how reading it comes to its end: which events are read
before it (`Passable`), and what the next one is that reading does not go on after.  It speaks
of the octets that have come of each stream and of the time that has passed, and neither of
captures nor of chunks.  Every schedule takes a course (`exists_course`).

`endTime` is the time at which the end of one stream is read if nothing else comes between.
-/

namespace Outflow

namespace Event

/-- Nothing of a stream is read after this event. -/
def closes (s : Stream) : Event → Bool
  | data t bytes => t = s ∧ bytes = []
  | eof t => t = s
  | fail t _ => t = s
  | delay _ => false
  | stall => true

/-- The milliseconds that an event takes.  Reading takes no time. -/
def span : Event → Nat
  | delay ms => ms
  | _ => 0

/-- An event of another stream closes nothing of this one. -/
theorem closes_of_ne {s t : Stream} {e : Event} (he : e.stream? = some t) (h : s ≠ t) :
    e.closes s = false := by
  cases e <;> simp_all [stream?, closes, h.symm]

/-- Only waiting takes time. -/
theorem span_of_stream {s : Stream} {e : Event} (he : e.stream? = some s) : e.span = 0 := by
  cases e <;> simp_all [stream?, span]

theorem span_of_closes {s : Stream} {e : Event} (h : e.closes s = true) : e.span = 0 := by
  cases e <;> simp_all [closes, span]

end Event

namespace Schedule

variable {limit : Option CaptureLimit} {deadline : Option Nat} {s : Stream} {σ τ : Schedule}

/-! ### What has been read -/

/-- Nothing in a schedule closes the stream. -/
def isOpen (s : Stream) (σ : Schedule) : Bool := σ.all fun e => !e.closes s

/-- The milliseconds that a schedule takes. -/
def span : Schedule → Nat
  | [] => 0
  | e :: rest => e.span + span rest

@[simp] theorem isOpen_nil (s : Stream) : isOpen s [] = true := rfl

@[simp] theorem isOpen_append (s : Stream) (σ τ : Schedule) :
    isOpen s (σ ++ τ) = (isOpen s σ && isOpen s τ) := List.all_append

@[simp] theorem isOpen_singleton (s : Stream) (e : Event) : isOpen s [e] = !e.closes s := by
  simp [isOpen]

@[simp] theorem span_nil : span [] = 0 := rfl

@[simp] theorem span_append (σ τ : Schedule) : span (σ ++ τ) = span σ + span τ := by
  induction σ with
  | nil => simp
  | cons e σ ih => simp [span, ih, Nat.add_assoc]

@[simp] theorem span_singleton (e : Event) : span [e] = e.span := by
  simp [span]

/-- What a stream lets out comes from the first part alone if that closes it. -/
theorem outputOf_append (s : Stream) (σ τ : Schedule) :
    outputOf s (σ ++ τ) = outputOf s σ ++ if isOpen s σ then outputOf s τ else [] := by
  induction σ with
  | nil => rfl
  | cons e σ ih =>
    cases e with
    | data t bytes =>
      by_cases ht : t = s <;> by_cases hb : bytes = [] <;>
        simp_all [outputOf, isOpen, Event.closes]
    | eof t => by_cases ht : t = s <;> simp_all [outputOf, isOpen, Event.closes]
    | fail t error => by_cases ht : t = s <;> simp_all [outputOf, isOpen, Event.closes]
    | delay ms => simpa [outputOf, isOpen, Event.closes] using ih
    | stall => simp [outputOf, isOpen, Event.closes]

/-- How a stream ends comes from the first part alone if that closes it. -/
theorem endOf_append (s : Stream) (σ τ : Schedule) :
    endOf s (σ ++ τ) = if isOpen s σ then endOf s τ else endOf s σ := by
  induction σ with
  | nil => rfl
  | cons e σ ih =>
    cases e with
    | data t bytes =>
      by_cases ht : t = s <;> by_cases hb : bytes = [] <;>
        simp_all [endOf, isOpen, Event.closes]
    | eof t => by_cases ht : t = s <;> simp_all [endOf, isOpen, Event.closes]
    | fail t error => by_cases ht : t = s <;> simp_all [endOf, isOpen, Event.closes]
    | delay ms => simpa [endOf, isOpen, Event.closes] using ih
    | stall => simp [endOf, isOpen, Event.closes]

/-! ### How far reading goes -/

/-- The error that an event comes to after what has been read before it. -/
inductive Stop (limit : Option CaptureLimit) (before : Schedule) : Event → DrainError → Prop where
  | fails {s : Stream} {error : IoError} (ho : isOpen s before = true) :
    Stop limit before (.fail s error) (.read s error)
  /-- With this output the stream has let out more than a limit that fails. -/
  | overflows {s : Stream} {bytes : Bytes} {maxBytes : UInt64} (ho : isOpen s before = true)
    (hl : limit = some ⟨maxBytes, .fail⟩)
    (hmax : maxBytes.toNat < (outputOf s before).length + bytes.length) :
    Stop limit before (.data s bytes) (.overflow ⟨s, maxBytes⟩)

/-- Reading goes on after every event: a stream is open before it, and it is neither an error
    nor a stall. -/
inductive Passable (limit : Option CaptureLimit) : Schedule → Prop where
  | nil : Passable limit []
  | snoc {before : Schedule} {e : Event} {s : Stream} (h : Passable limit before)
    (ho : isOpen s before = true) (hstall : e ≠ .stall)
    (hstop : ∀ error, ¬ Stop limit before e error) : Passable limit (before ++ [e])

/-- How reading a schedule comes to its end, and what is read until then.  What is readable at
    the deadline is still read. -/
inductive Course (limit : Option CaptureLimit) (deadline : Option Nat) :
    Schedule → DrainEnd → Schedule → Prop where
  /-- Both streams have been closed, or the schedule runs out, which closes what is open. -/
  | ended {before rest : Schedule} (hp : Passable limit before)
    (hend : (∀ s, isOpen s before = false) ∨ rest = [])
    (ht : within deadline (span before) = true) :
    Course limit deadline (before ++ rest) .ended before
  | failed {before rest : Schedule} {e : Event} {error : DrainError} (hp : Passable limit before)
    (hstop : Stop limit before e error) (ht : within deadline (span before) = true) :
    Course limit deadline (before ++ e :: rest) (.failed error) before
  /-- The next event comes after the deadline. -/
  | timedOut {before rest : Schedule} {e : Event} {s : Stream} {time : Nat}
    (hp : Passable limit before) (ho : isOpen s before = true) (hd : deadline = some time)
    (ht : span before ≤ time) (he : e = .stall ∨ time < span before + e.span) :
    Course limit deadline (before ++ e :: rest) .timedOut before
  | hung {before rest : Schedule} {s : Stream} (hp : Passable limit before)
    (ho : isOpen s before = true) (hd : deadline = none) :
    Course limit deadline (before ++ .stall :: rest) .hung before

/-! ### What was passable -/

/-- Reading goes on only within the limit, and past no failure of a stream that is open. -/
theorem Passable.alone (h : Passable limit σ) (s : Stream) :
    CaptureLimit.refuses limit (outputOf s σ).length = false ∧ endOf s σ = .eof := by
  induction h with
  | nil =>
    refine ⟨?_, rfl⟩
    unfold CaptureLimit.refuses
    split <;> simp [outputOf]
  | @snoc before e t _ ho hstall hstop ih =>
    rw [outputOf_append, endOf_append]
    cases hopen : isOpen s before with
    | false => simpa using ih
    | true =>
      simp only [if_true]
      cases e with
      | data t bytes =>
        by_cases ht : t = s
        · subst ht
          refine ⟨?_, by by_cases hb : bytes = [] <;> simp [endOf, hb]⟩
          -- Otherwise this event would have been the overflow.
          rw [Bool.eq_false_iff]
          intro hrefuses
          unfold CaptureLimit.refuses at hrefuses
          split at hrefuses
          · rename_i maxBytes _
            refine hstop _ (.overflows hopen rfl ?_)
            by_cases hb : bytes = [] <;> simpa [outputOf, hb] using hrefuses
          · contradiction
        · simpa [outputOf, endOf, ht] using ih.1
      | eof t => by_cases ht : t = s <;> simpa [outputOf, endOf, ht] using ih.1
      | fail t error =>
        by_cases ht : t = s
        · subst ht
          exact absurd (.fails hopen) (hstop _)
        · simpa [outputOf, endOf, ht] using ih.1
      | delay ms => simpa [outputOf, endOf] using ih.1
      | stall => contradiction

/-- A time is within a deadline if a later one is. -/
theorem within_of_le {t u : Nat} (h : within deadline u = true) (hle : t ≤ u) :
    within deadline t = true := by
  cases deadline with
  | none => rfl
  | some time =>
    simp only [within, decide_eq_true_eq] at h ⊢
    exact hle.trans h

/-- What can be read so far can be read on to some end. -/
theorem exists_course_append {before : Schedule} (rest : Schedule) (hp : Passable limit before)
    (ht : within deadline (span before) = true) :
    ∃ ending read, Course limit deadline (before ++ rest) ending read := by
  induction rest generalizing before with
  | nil => exact ⟨.ended, before, .ended hp (.inr rfl) ht⟩
  | cons e rest ih =>
    by_cases hopen : ∃ s, isOpen s before = true
    · obtain ⟨s, ho⟩ := hopen
      by_cases hstop : ∃ error, Stop limit before e error
      · obtain ⟨error, hstop⟩ := hstop
        exact ⟨.failed error, before, .failed hp hstop ht⟩
      by_cases hstall : e = .stall
      · subst hstall
        cases hd : deadline with
        | none => exact ⟨.hung, before, .hung hp ho rfl⟩
        | some time =>
          rw [hd, within, decide_eq_true_eq] at ht
          exact ⟨.timedOut, before, .timedOut hp ho rfl ht (.inl rfl)⟩
      -- The event can be read, unless its time comes too late.
      by_cases hnext : within deadline (span (before ++ [e])) = true
      · have hp' := Passable.snoc hp ho hstall fun error h => hstop ⟨error, h⟩
        simpa using ih hp' hnext
      · cases hd : deadline with
        | none => simp [hd, within] at hnext
        | some time =>
          simp only [hd, within, decide_eq_true_eq, span_append, span_singleton,
            Nat.not_le] at ht hnext
          exact ⟨.timedOut, before, .timedOut hp ho rfl ht (.inr hnext)⟩
    · refine ⟨.ended, before, .ended hp (.inl fun s => ?_) ht⟩
      exact Bool.eq_false_iff.2 fun ho => hopen ⟨s, ho⟩

/-- **Every schedule takes a course.** -/
theorem exists_course (limit : Option CaptureLimit) (deadline : Option Nat) (σ : Schedule) :
    ∃ ending read, Course limit deadline σ ending read := by
  have hstart : within deadline (span []) = true := by cases deadline <;> simp [within]
  exact exists_course_append σ .nil hstart

/-! ### Coming to a good end -/

/-- The time at which the end of a stream is read, if nothing comes between. -/
def endTime (s : Stream) : Schedule → Nat
  | [] => 0
  | e :: rest => if e.closes s then 0 else e.span + endTime s rest

/-- The time at which the later of the two ends is read. -/
def drainTime (σ : Schedule) : Nat := max (endTime .stdout σ) (endTime .stderr σ)

theorem endTime_append (s : Stream) (σ τ : Schedule) :
    endTime s (σ ++ τ) = if isOpen s σ then span σ + endTime s τ else endTime s σ := by
  induction σ with
  | nil => simp
  | cons e σ ih =>
    rw [← List.singleton_append, isOpen_append, span_append, isOpen_singleton, span_singleton]
    cases hc : e.closes s <;> cases ho : isOpen s σ <;> simp_all [endTime, Nat.add_assoc]

theorem endTime_le_span (s : Stream) (σ : Schedule) : endTime s σ ≤ span σ := by
  induction σ with
  | nil => exact Nat.le_refl _
  | cons e σ ih =>
    rw [← List.singleton_append, span_append, span_singleton]
    cases hc : e.closes s <;> simp [endTime, hc]
    omega

theorem endTime_of_isOpen (h : isOpen s σ = true) : endTime s σ = span σ := by
  have happend := endTime_append s σ []
  rwa [List.append_nil, h, if_pos rfl] at happend

/-- Reading ends as soon as it can. -/
theorem Passable.exists_endTime (h : Passable limit σ) : ∃ s, endTime s σ = span σ := by
  cases h with
  | nil => exact ⟨.stdout, rfl⟩
  | @snoc before e s _ ho hstall hstop =>
    refine ⟨s, ?_⟩
    rw [endTime_append, if_pos ho, span_append, span_singleton]
    cases hc : e.closes s with
    | false => simp [endTime, hc]
    | true => simp [endTime, hc, Event.span_of_closes hc]

/-- With both streams at their ends, nothing more comes of either of them. -/
theorem Course.of_ended {before : Schedule} (h : Course limit deadline σ .ended before)
    (s : Stream) : outputOf s σ = outputOf s before ∧ endOf s σ = .eof ∧
      endTime s σ = endTime s before := by
  cases h with
  | @ended _ rest hp hend ht =>
    have halone := (hp.alone s).2
    rw [outputOf_append, endOf_append, endTime_append]
    cases ho : isOpen s before with
    | false => simpa using halone
    | true =>
      obtain hclosed | rfl := hend
      · rw [hclosed s] at ho
        contradiction
      · simpa [outputOf, endTime] using ⟨rfl, (endTime_of_isOpen ho).symm⟩

theorem Course.span_of_ended {before : Schedule} (h : Course limit deadline σ .ended before) :
    span before = drainTime σ := by
  have hends := fun s => (h.of_ended s).2.2
  cases h with
  | ended hp hend ht =>
    obtain ⟨s, hs⟩ := hp.exists_endTime
    have hout := endTime_le_span .stdout before
    have herr := endTime_le_span .stderr before
    rw [drainTime, hends .stdout, hends .stderr]
    cases s <;> omega

theorem endTime_le_drainTime (s : Stream) (σ : Schedule) : endTime s σ ≤ drainTime σ := by
  unfold drainTime
  cases s <;> omega

/-- Reading does not end otherwise if each stream comes to a good end before the deadline. -/
theorem Course.ending_eq_ended {before : Schedule} {ending : DrainEnd}
    (h : Course limit deadline σ ending before)
    (hall : ∀ s, endOf s σ = .eof ∧ CaptureLimit.refuses limit (outputOf s σ).length = false)
    (hdrain : within deadline (drainTime σ) = true) : ending = .ended := by
  cases h with
  | ended hp hend ht => rfl
  | @failed _ rest e error hp hstop ht =>
    cases hstop with
    | @fails s source ho =>
      have hend := (hall s).1
      simp [endOf_append, ho, endOf] at hend
    | @overflows s bytes maxBytes ho hl hmax =>
      have hrefuses := (hall s).2
      rw [outputOf_append, if_pos ho, hl] at hrefuses
      by_cases hb : bytes = [] <;> simp [CaptureLimit.refuses, outputOf, hb] at hrefuses hmax <;>
        omega
  | @timedOut _ rest e s time hp ho hd ht he =>
    obtain rfl | hlate := he
    · have hend := (hall s).1
      simp [endOf_append, ho, endOf] at hend
    · -- The stream ends after the event that comes too late.
      have hopen : e.closes s = false := by
        rw [Bool.eq_false_iff]
        intro hc
        rw [Event.span_of_closes hc] at hlate
        omega
      have htime : endTime s (before ++ e :: rest) = span before + (e.span + endTime s rest) := by
        rw [endTime_append, if_pos ho]
        simp [endTime, hopen]
      have hle := endTime_le_drainTime s (before ++ e :: rest)
      rw [hd, within, decide_eq_true_eq] at hdrain
      omega
  | @hung _ rest s hp ho hd =>
    have hend := (hall s).1
    simp [endOf_append, ho, endOf] at hend

/-- **When reading comes to a good end:** each stream does, within the limit, and before the
    deadline. -/
theorem exists_course_ended_iff (limit : Option CaptureLimit) (deadline : Option Nat)
    (σ : Schedule) :
    (∃ before, Course limit deadline σ .ended before) ↔
      (∀ s, endOf s σ = .eof ∧ CaptureLimit.refuses limit (outputOf s σ).length = false) ∧
        within deadline (drainTime σ) = true := by
  constructor
  · rintro ⟨before, h⟩
    have hspan := h.span_of_ended
    have hends := fun s => h.of_ended s
    cases h with
    | ended hp hend ht =>
      refine ⟨fun s => ⟨(hends s).2.1, ?_⟩, hspan ▸ ht⟩
      rw [(hends s).1]
      exact (hp.alone s).1
  · rintro ⟨hall, ht⟩
    obtain ⟨ending, before, h⟩ := exists_course limit deadline σ
    exact ⟨before, h.ending_eq_ended hall ht ▸ h⟩

end Schedule

end Outflow
