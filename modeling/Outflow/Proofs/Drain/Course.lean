import Mathlib.Data.List.DropRight
import Outflow.Proofs.Drain.Event
import Outflow.Proofs.Schedule.Course

/-!
# A drain takes the course of its schedule

`HasRead` says what a drain has made of the events that it has read: which streams are open,
what each capture holds, and what time it is.  Every event that reading goes on after keeps it
(`HasRead.next`), so that a drain comes to the end that the course of its schedule comes to, with
what each stream has let out until then (`run_course`).
-/

namespace Outflow

namespace CaptureLimit

/-- The octets that a limit leaves of what one stream has let out. -/
def kept : Option CaptureLimit → Bytes → Bytes
  | some ⟨maxBytes, .dropOldest⟩, bytes => bytes.rtake maxBytes.toNat
  | _, bytes => bytes

end CaptureLimit

namespace Capture

open CaptureLimit

variable {s : Stream} {live : Bool} {limit : Option CaptureLimit} {bytes : Bytes}

/-- What a new capture refuses is more than a limit that fails. -/
theorem refusal?_start (s : Stream) (live : Bool) (limit : Option CaptureLimit) (bytes : Bytes) :
    (start s live limit).refusal? bytes =
      limit.bind fun l => if refuses limit bytes.length then some ⟨s, l.maxBytes⟩ else none := by
  have hsize : (start s live limit).kept.size = 0 := rfl
  cases limit with
  | none => rfl
  | some l =>
    simp only [refusal?, hsize, Nat.zero_add, Option.bind_some]
    rfl

/-- A new capture refuses more octets than a limit that fails. -/
theorem refusal?_start_eq_some_iff {o : Overflow} :
    (start s live limit).refusal? bytes = some o ↔
      o.stream = s ∧ limit = some ⟨o.maxBytes, .fail⟩ ∧ o.maxBytes.toNat < bytes.length := by
  rw [refusal?_start]
  obtain ⟨t, maxBytes⟩ := o
  rcases limit with _ | ⟨m, strategy⟩
  · simp
  · cases strategy with
    | dropOldest => simp [refuses]
    | fail => grind [refuses]

/-- What is refused after some output is refused with it. -/
theorem refusal?_recorded_start (chunk : Bytes) (h : refuses limit bytes.length = false) :
    ((start s live limit).recorded bytes).refusal? chunk =
      (start s live limit).refusal? (bytes ++ chunk) := by
  rw [refusal?_append, refusal?_start_eq_none_iff.2 h, Option.none_or]

/-- A capture holds what its limit leaves. -/
theorem bytes_recorded_start (h : refuses limit bytes.length = false) :
    ((start s live limit).recorded bytes).bytes = CaptureLimit.kept limit bytes := by
  rcases limit with _ | ⟨maxBytes, strategy⟩
  · simp [recorded, Capture.bytes, start, bound, CaptureLimit.kept]
  · cases strategy with
    | dropOldest =>
      simp only [recorded, Capture.bytes, start, bound, Trail.toList_takeLast,
        Trail.toList_append, Trail.toList_empty, List.nil_append, Trail.size_append]
      rw [← Trail.length_toList, Trail.toList_empty, List.length_nil, Nat.zero_add]
      rfl
    | fail =>
      simp only [refuses, decide_eq_false_iff_not, Nat.not_lt] at h
      simp [recorded, Capture.bytes, start, bound, CaptureLimit.kept, Trail.empty, h]

end Capture

namespace Drain

open Schedule

variable {n : Nat} {deadline : Option Nat} {live : Bool} {limit : Option CaptureLimit}
  {d : Drain} {before after rest σ : Schedule} {ending : DrainEnd}

/-! ### What has been read -/

/-- A drain from the start has read these events. -/
structure HasRead (live : Bool) (limit : Option CaptureLimit) (before : Schedule) (d : Drain) :
    Prop where
  opened : ∀ s, d.opened.get s = isOpen s before
  capture : ∀ s, d.captures.get s =
    if isOpen s before then (Capture.start s live limit).recorded (outputOf s before)
    else ((Capture.start s live limit).recorded (outputOf s before)).finish.1
  clock : d.clock = span before

theorem hasRead_start (live : Bool) (limit : Option CaptureLimit) :
    HasRead live limit [] (start live limit []) where
  opened s := by cases s <;> rfl
  capture s := by
    have hcapture : (start live limit []).captures.get s = Capture.start s live limit := by
      cases s <;> rfl
    rw [hcapture, isOpen_nil, if_pos rfl]
    exact (Capture.recorded_nil (Capture.fits_start s live limit)).symm
  clock := rfl

namespace HasRead

theorem capture_of_open {s : Stream} (h : HasRead live limit before d)
    (ho : d.opened.get s = true) :
    d.captures.get s = (Capture.start s live limit).recorded (outputOf s before) := by
  rw [h.capture s, ← h.opened s, if_pos ho]

/-- Events that add nothing and take no time. -/
theorem congr (h : HasRead live limit before d) (hopen : ∀ s, isOpen s after = isOpen s before)
    (hout : ∀ s, outputOf s after = outputOf s before) (hspan : span after = span before) :
    HasRead live limit after d where
  opened s := by rw [h.opened, hopen]
  capture s := by rw [h.capture, hopen, hout]
  clock := by rw [h.clock, hspan]

/-- What a drain holds of each stream. -/
theorem bytes (h : HasRead live limit before d) (hp : Passable limit before) (s : Stream) :
    (d.captures.get s).bytes = CaptureLimit.kept limit (outputOf s before) := by
  rw [← Capture.bytes_recorded_start (hp.alone s).1, h.capture s]
  split
  · rfl
  · rfl

/-! ### One event more -/

theorem passed {e : Event} {t : Stream} (h : HasRead live limit before d)
    (he : e.stream? = some t) (ho : d.opened.get t = false) :
    HasRead live limit (before ++ [e]) d := by
  rw [h.opened] at ho
  refine h.congr (fun s => ?_) (fun s => ?_) ?_
  · by_cases hs : s = t
    · subst hs
      simp [ho]
    · simp [Event.closes_of_ne he hs]
  · by_cases hs : s = t
    · subst hs
      simp [outputOf_append, ho]
    · simp [outputOf_append, outputOf_cons_of_ne [] he hs, outputOf]
  · simp [Event.span_of_stream he]

theorem ends {e : Event} {t : Stream} (h : HasRead live limit before d)
    (he : e = .eof t ∨ e = .data t []) (ho : d.opened.get t = true) :
    HasRead live limit (before ++ [e]) (d.close t) := by
  have hcloses : e.closes t = true := by
    obtain rfl | rfl := he <;> simp [Event.closes]
  have hstream : e.stream? = some t := by
    obtain rfl | rfl := he <;> rfl
  have hout : outputOf t [e] = [] := by
    obtain rfl | rfl := he <;> simp [outputOf]
  constructor
  · intro s
    by_cases hs : s = t
    · subst hs
      simp [hcloses]
    · simp [opened_close_of_ne d hs, h.opened, Event.closes_of_ne hstream hs]
  · intro s
    by_cases hs : s = t
    · subst hs
      simp [outputOf_append, hout, hcloses, h.capture_of_open ho]
    · simp [capture_close_of_ne d hs, h.capture, outputOf_append, Event.closes_of_ne hstream hs,
        outputOf_cons_of_ne [] hstream hs, outputOf]
  · simpa [Event.span_of_closes hcloses] using h.clock

theorem output {t : Stream} {bytes : Bytes} (h : HasRead live limit before d)
    (ho : d.opened.get t = true) (hb : bytes ≠ []) :
    HasRead live limit (before ++ [.data t bytes]) (d.recorded t bytes) := by
  have hopen : isOpen t before = true := h.opened t ▸ ho
  have hcloses : ∀ s, Event.closes s (.data t bytes) = false := by simp [Event.closes, hb]
  constructor
  · simpa [hcloses] using h.opened
  · intro s
    by_cases hs : s = t
    · subst hs
      simp [outputOf_append, hopen, hcloses, outputOf, hb, h.capture_of_open ho,
        Capture.recorded_append]
    · have hout : outputOf s [.data t bytes] = [] := outputOf_cons_of_ne [] rfl hs
      simp [capture_recorded_of_ne d bytes hs, h.capture, outputOf_append, hcloses, hout]
  · simpa [Event.span] using h.clock

theorem delay (h : HasRead live limit before d) (ms : Nat) :
    HasRead live limit (before ++ [.delay ms]) (d.later ms) where
  opened := by simpa [Event.closes, later] using h.opened
  capture s := by simpa [Event.closes, outputOf_append, outputOf, later] using h.capture s
  clock := by simpa [Event.span, later] using h.clock

/-- A refusal is an overflow that stops the reading. -/
theorem stop_of_refusal {t : Stream} {bytes : Bytes} {o : Overflow}
    (h : HasRead live limit before d) (hp : Passable limit before) (ho : d.opened.get t = true)
    (hr : (d.captures.get t).refusal? bytes = some o) :
    Stop limit before (.data t bytes) (.overflow o) := by
  rw [h.capture_of_open ho, Capture.refusal?_recorded_start bytes (hp.alone t).1,
    Capture.refusal?_start_eq_some_iff] at hr
  obtain ⟨rfl, hlimit, hmax⟩ := hr
  exact .overflows (h.opened _ ▸ ho) hlimit (by simpa using hmax)

/-- **Reading goes on past every event that does not stop it.** -/
theorem next {e : Event} {t : Stream} (h : HasRead live limit before d)
    (hp : Passable limit before) (ho : isOpen t before = true) (hstall : e ≠ .stall)
    (hstop : ∀ error, ¬ Stop limit before e error) :
    ∃ d', HasRead live limit (before ++ [e]) d' ∧ ∀ n deadline rest,
      within deadline (span (before ++ [e])) = true →
        (d.facing (e :: rest)).run n deadline = (d'.facing rest).run n deadline := by
  have hs : d.settled = false := settled_eq_false (h.opened t ▸ ho)
  cases d.head e with
  | passed he hc => exact ⟨d, h.passed he hc, fun _ _ _ _ => run_passed hs he hc⟩
  | @ends _ s he ho => exact ⟨d.close s, h.ends he ho, fun _ _ _ _ => run_end he ho⟩
  | @output s bytes ho hb hr =>
    exact ⟨d.recorded s bytes, h.output ho hb, fun _ _ _ _ => run_data ho hb hr⟩
  | overflow ho hb hr => exact absurd (h.stop_of_refusal hp ho hr) (hstop _)
  | @fails s error ho => exact absurd (.fails (h.opened s ▸ ho)) (hstop _)
  | @delay ms =>
    refine ⟨d.later ms, h.delay ms, fun n deadline rest ht => ?_⟩
    rw [span_append, span_singleton, ← h.clock] at ht
    rw [run_delay hs]
    exact if_pos ht
  | stall => exact absurd rfl hstall

end HasRead

/-! ### Courses -/

/-- A drain reads what can be read. -/
theorem exists_hasRead (live : Bool) (hp : Passable limit before) :
    ∃ d, HasRead live limit before d ∧ ∀ n deadline rest,
      within deadline (span before) = true →
        (start live limit (before ++ rest)).run n deadline = (d.facing rest).run n deadline := by
  induction hp with
  | nil => exact ⟨start live limit [], hasRead_start live limit, fun _ _ _ _ => rfl⟩
  | @snoc before e s hp ho hstall hstop ih =>
    obtain ⟨d, hd, hrun⟩ := ih
    obtain ⟨d', hd', hrun'⟩ := hd.next hp ho hstall hstop
    refine ⟨d', hd', fun n deadline rest ht => ?_⟩
    have hbefore : within deadline (span before) = true :=
      within_of_le ht (by rw [span_append]; exact Nat.le_add_right _ _)
    rw [List.append_assoc, List.singleton_append, hrun n deadline _ hbefore, hrun' n deadline _ ht]

@[simp] theorem bytes_closeOpen (d : Drain) (s t : Stream) :
    ((d.closeOpen s).captures.get t).bytes = (d.captures.get t).bytes := by
  unfold closeOpen
  split
  · by_cases ht : t = s
    · subst ht
      rw [capture_close]
      rfl
    · rw [capture_close_of_ne d ht]
  · rfl

@[simp] theorem clock_closeOpen (d : Drain) (s : Stream) : (d.closeOpen s).clock = d.clock := by
  unfold closeOpen
  split <;> rfl

/-- **A drain comes to the end that its schedule comes to,** with what the limit leaves of what
    each stream has let out until then.  What an overflow leaves is not said. -/
theorem run_course (n : Nat) (live : Bool) (h : Course limit deadline σ ending before) :
    ∃ d, (start live limit σ).run n deadline = (ending, d) ∧
      ((∀ o, ending ≠ .failed (.overflow o)) →
        ∀ s, (d.captures.get s).bytes = CaptureLimit.kept limit (outputOf s before)) ∧
      (ending = .ended → d.clock = span before) := by
  cases h with
  | @ended _ rest hp hend ht =>
    obtain ⟨d, hd, hrun⟩ := exists_hasRead live hp
    rw [hrun n deadline rest ht]
    obtain hclosed | rfl := hend
    · have hs : (d.facing rest).settled = true :=
        settled_iff.2 fun s => (hd.opened s).trans (hclosed s)
      exact ⟨d.facing rest, run_settled hs, fun _ => hd.bytes hp, fun _ => hd.clock⟩
    · refine ⟨d.closeAll.facing [], run_nil d, fun _ s => ?_, fun _ => ?_⟩
      · rw [← hd.bytes hp s]
        simp [closeAll, facing]
      · rw [← hd.clock]
        simp [closeAll, facing]
  | @failed _ rest e error hp hstop ht =>
    obtain ⟨d, hd, hrun⟩ := exists_hasRead live hp
    rw [hrun n deadline _ ht]
    cases hstop with
    | @fails s error ho =>
      exact ⟨_, run_fail ((hd.opened s).trans ho), fun _ => hd.bytes hp, by simp⟩
    | @overflows s bytes maxBytes ho hl hmax =>
      have ho' : d.opened.get s = true := (hd.opened s).trans ho
      have halone := (hp.alone s).1
      have hb : bytes ≠ [] := by
        rintro rfl
        simp [hl, CaptureLimit.refuses] at halone hmax
        omega
      have hr : (d.captures.get s).refusal? bytes = some ⟨s, maxBytes⟩ := by
        rw [hd.capture_of_open ho', Capture.refusal?_recorded_start bytes halone,
          Capture.refusal?_start_eq_some_iff]
        exact ⟨rfl, hl, by simpa using hmax⟩
      obtain ⟨d', -, hoverflow⟩ := run_data_overflow n deadline rest ho' hb hr
      exact ⟨d', hoverflow, fun hover => absurd rfl (hover _), by simp⟩
  | @timedOut _ rest e s time hp ho hd ht he =>
    subst hd
    have hwithin : within (some time) (span before) = true := by simpa [within] using ht
    obtain ⟨d, hd, hrun⟩ := exists_hasRead live hp
    rw [hrun n _ _ hwithin]
    have hs : d.settled = false := settled_eq_false ((hd.opened s).trans ho)
    refine ⟨{ d.facing (e :: rest) with clock := time }, ?_, fun _ => hd.bytes hp, by simp⟩
    obtain rfl | hlate := he
    · exact run_stall hs
    · cases e with
      | delay ms =>
        rw [run_delay hs, hd.clock, if_neg]
        · rfl
        · simpa [within, Event.span] using hlate
      | _ => simp only [Event.span] at hlate; omega
  | @hung _ rest s hp ho hd =>
    subst hd
    obtain ⟨d, hd, hrun⟩ := exists_hasRead live hp
    rw [hrun n none _ rfl]
    exact ⟨_, run_stall (settled_eq_false ((hd.opened s).trans ho)), fun _ => hd.bytes hp, by simp⟩

end Drain

end Outflow
