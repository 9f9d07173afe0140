import Outflow.Capture
import Outflow.Proofs.Lines

/-!
# Recording chunk by chunk

`record_eq` says in one equation what recording a chunk does: the limit refuses it
(`refusal?`), which leaves the capture as it was and lets nothing out, or the capture is
`recorded` and the lines that the chunk `completed` are let out.  Each of the three is additive,
so recording two chunks is recording them joined, and what becomes of a stream depends on its
octets alone and not on how they were cut (`recordAll_of_not_refusal`,
`result_recordAll_of_refusal`).

`Fits` is the invariant that a capture keeps no more than its limit lets it.
-/

namespace Outflow

namespace Trail

variable {α : Type}

/-- The last `n` elements. -/
def takeLast (t : Trail α) (n : Nat) : Trail α := t.dropFirst (t.size - n)

/-- What is kept are the last elements. -/
@[simp] theorem toList_takeLast (t : Trail α) (n : Nat) :
    (t.takeLast n).toList = t.toList.drop (t.size - n) := toList_dropFirst _ _

@[simp] theorem size_takeLast (t : Trail α) (n : Nat) : (t.takeLast n).size = min t.size n := by
  rw [← length_toList, toList_takeLast, List.length_drop, length_toList]
  omega

theorem takeLast_of_le {t : Trail α} {n : Nat} (h : t.size ≤ n) : t.takeLast n = t := by
  apply ext_toList
  rw [toList_takeLast, Nat.sub_eq_zero_of_le h, List.drop_zero]

/-- Of the last elements and some more, the last are those of all elements. -/
theorem takeLast_append_takeLast (t : Trail α) (xs : List α) (n : Nat) :
    ((t.takeLast n).append xs).takeLast n = (t.append xs).takeLast n := by
  apply ext_toList
  simp only [toList_takeLast, toList_append, size_append, size_takeLast]
  have hlen : t.toList.length = t.size := length_toList t
  have hle : t.size - n ≤ t.toList.length := by omega
  rw [← List.drop_append_of_le_length hle, List.drop_drop]
  congr 1
  omega

end Trail

namespace CaptureLimit

/-- Whether a limit refuses so many octets of one stream. -/
def refuses : Option CaptureLimit → Nat → Bool
  | some ⟨maxBytes, .fail⟩, total => maxBytes.toNat < total
  | _, _ => false

/-- The octets that a limit leaves of those recorded. -/
def bound : Option CaptureLimit → Trail UInt8 → Trail UInt8
  | none, kept => kept
  | some limit, kept => kept.takeLast limit.maxBytes.toNat

/-- How many of so many octets are beyond a limit. -/
def excess : Option CaptureLimit → Nat → Nat
  | none, _ => 0
  | some limit, total => total - limit.maxBytes.toNat

theorem bound_append_bound (limit : Option CaptureLimit) (kept : Trail UInt8) (xs : Bytes) :
    bound limit ((bound limit kept).append xs) = bound limit (kept.append xs) := by
  cases limit with
  | none => rfl
  | some limit => exact Trail.takeLast_append_takeLast kept xs limit.maxBytes.toNat

theorem excess_add (limit : Option CaptureLimit) (kept : Trail UInt8) (n : Nat) :
    excess limit kept.size + excess limit ((bound limit kept).size + n) =
      excess limit (kept.size + n) := by
  cases limit with
  | none => rfl
  | some limit =>
    simp only [excess, bound, Trail.size_takeLast]
    omega

/-- What is refused stays refused when more is added. -/
theorem refuses_add {limit : Option CaptureLimit} {total : Nat} (n : Nat)
    (h : refuses limit total = true) : refuses limit (total + n) = true := by
  unfold refuses at h ⊢
  split at h
  · simp only [decide_eq_true_eq] at h ⊢
    omega
  · contradiction

/-- A limit that drops nothing leaves everything that it does not refuse. -/
theorem refuses_size_bound {limit : Option CaptureLimit} {kept : Trail UInt8} (n : Nat)
    (h : refuses limit kept.size = false) :
    refuses limit ((bound limit kept).size + n) = refuses limit (kept.size + n) := by
  unfold refuses at h ⊢
  split at h
  · simp only [bound, Trail.size_takeLast, decide_eq_false_iff_not, Nat.not_lt] at h ⊢
    rw [Nat.min_eq_left h]
  · rfl

end CaptureLimit

namespace Capture

open CaptureLimit

/-! ### One chunk -/

/-- The overflow that a chunk would be, if the limit refuses it. -/
def refusal? (c : Capture) (chunk : Bytes) : Option Overflow :=
  match c.limit with
  | some limit =>
    if refuses (some limit) (c.kept.size + chunk.length) then some ⟨c.source, limit.maxBytes⟩
    else none
  | none => none

/-- The capture after a chunk that is not refused. -/
def recorded (c : Capture) (chunk : Bytes) : Capture :=
  { c with
    kept := bound c.limit (c.kept.append chunk)
    lines := c.lines.map fun b => (b.push chunk).2
    dropped := c.dropped + excess c.limit (c.kept.size + chunk.length) }

/-- The lines that a chunk completes, if lines are forwarded. -/
def completed (c : Capture) (chunk : Bytes) : List Emission :=
  match c.lines with
  | none => []
  | some b => (b.push chunk).1.map (.line c.source)

/-- Whichever octets go, they are the first of those kept and the chunk together. -/
theorem replaceOldest_eq (c : Capture) (chunk : Bytes) (n : Nat) :
    c.replaceOldest chunk n =
      { c with kept := (c.kept.append chunk).dropFirst n, dropped := c.dropped + n } := by
  have hlen : c.kept.toList.length = c.kept.size := Trail.length_toList c.kept
  have hkept : (if c.kept.size ≤ n then .ofList (chunk.drop (n - c.kept.size))
      else (c.kept.dropFirst n).append chunk) = (c.kept.append chunk).dropFirst n := by
    apply Trail.ext_toList
    rw [Trail.toList_dropFirst, Trail.toList_append, List.drop_append, hlen]
    by_cases hle : c.kept.size ≤ n
    · have hgone : c.kept.toList.drop n = [] := List.drop_eq_nil_of_le (hlen ▸ hle)
      rw [if_pos hle, Trail.toList_ofList, hgone, List.nil_append]
    · rw [if_neg hle, Trail.toList_append, Trail.toList_dropFirst,
        Nat.sub_eq_zero_of_le (Nat.le_of_not_le hle), List.drop_zero]
  rw [replaceOldest, hkept]

/-- What keeping a chunk does. -/
private theorem keep_eq (c : Capture) (chunk : Bytes) :
    c.keep chunk =
      match c.refusal? chunk with
      | some o => (c, .error o)
      | none => ({ c with
          kept := bound c.limit (c.kept.append chunk)
          dropped := c.dropped + excess c.limit (c.kept.size + chunk.length) }, .ok ()) := by
  rcases hl : c.limit with _ | ⟨maxBytes, strategy⟩
  · simp [keep, refusal?, hl, bound, excess]
  · by_cases hle : c.kept.size + chunk.length ≤ maxBytes.toNat
    · have htake : (c.kept.append chunk).takeLast maxBytes.toNat = c.kept.append chunk :=
        Trail.takeLast_of_le (by simpa using hle)
      cases strategy <;>
        simp [keep, refusal?, refuses, hl, hle, bound, excess, htake, Nat.sub_eq_zero_of_le hle,
          Nat.not_lt.2 hle]
    · cases strategy <;>
        simp [keep, refusal?, refuses, hl, hle, bound, excess, Nat.lt_of_not_le hle,
          replaceOldest_eq, Trail.takeLast]

/-- **What recording a chunk does.**  If the limit refuses the chunk, the capture is left as it
    was and nothing is let out. -/
theorem record_eq (c : Capture) (chunk : Bytes) :
    c.record chunk =
      match c.refusal? chunk with
      | some o => ⟨c, [], .error o⟩
      | none => ⟨c.recorded chunk, c.completed chunk, .ok ()⟩ := by
  rw [record, keep_eq]
  cases c.refusal? chunk with
  | some o => rfl
  | none =>
    simp only [assemble, recorded, completed]
    cases c.lines <;> rfl

theorem record_of_refusal {c : Capture} {chunk : Bytes} {o : Overflow}
    (h : c.refusal? chunk = some o) : c.record chunk = ⟨c, [], .error o⟩ := by
  rw [record_eq, h]

theorem record_of_not_refusal {c : Capture} {chunk : Bytes} (h : c.refusal? chunk = none) :
    c.record chunk = ⟨c.recorded chunk, c.completed chunk, .ok ()⟩ := by
  rw [record_eq, h]

/-- A chunk is refused exactly if it and the octets kept are too many for the limit. -/
theorem refusal?_eq_none_iff {c : Capture} {chunk : Bytes} :
    c.refusal? chunk = none ↔ refuses c.limit (c.kept.size + chunk.length) = false := by
  unfold refusal?
  cases c.limit with
  | none => simp [refuses]
  | some limit => simp

/-- A new capture refuses what is too much for the limit by itself. -/
theorem refusal?_start_eq_none_iff {s : Stream} {live : Bool} {limit : Option CaptureLimit}
    {bytes : Bytes} :
    (start s live limit).refusal? bytes = none ↔ refuses limit bytes.length = false := by
  have hsize : (start s live limit).kept.size = 0 := rfl
  rw [refusal?_eq_none_iff, hsize, Nat.zero_add]
  rfl

@[simp] theorem recorded_source (c : Capture) (chunk : Bytes) :
    (c.recorded chunk).source = c.source := rfl

@[simp] theorem recorded_limit (c : Capture) (chunk : Bytes) :
    (c.recorded chunk).limit = c.limit := rfl

/-- Without a limit every octet is kept. -/
theorem bytes_recorded {c : Capture} (chunk : Bytes) (h : c.limit = none) :
    (c.recorded chunk).bytes = c.bytes ++ chunk := by
  simp [recorded, bytes, h, bound]

/-! ### Two chunks -/

theorem recorded_append (c : Capture) (xs ys : Bytes) :
    c.recorded (xs ++ ys) = (c.recorded xs).recorded ys := by
  have hkept := bound_append_bound c.limit (c.kept.append xs) ys
  have hdropped := excess_add c.limit (c.kept.append xs) ys.length
  simp only [Trail.append_append, Trail.size_append] at hkept hdropped
  simp only [recorded, hkept, List.length_append, Option.map_map, LineBuffer.push_append,
    ← Nat.add_assoc, ← hdropped, Capture.mk.injEq, true_and, and_true]
  rfl

theorem completed_append (c : Capture) (xs ys : Bytes) :
    c.completed (xs ++ ys) = c.completed xs ++ (c.recorded xs).completed ys := by
  simp only [completed, recorded]
  cases c.lines with
  | none => rfl
  | some b => simp [LineBuffer.push_append]

/-- The joined chunk is refused if its first part is, or the second part after the first. -/
theorem refusal?_append (c : Capture) (xs ys : Bytes) :
    c.refusal? (xs ++ ys) = (c.refusal? xs).or ((c.recorded xs).refusal? ys) := by
  cases hl : c.limit with
  | none => simp [refusal?, hl]
  | some limit =>
    have hsize : (c.kept.append xs).size = c.kept.size + xs.length := Trail.size_append _ _
    by_cases hx : refuses (some limit) (c.kept.size + xs.length) = true
    · have hxy := refuses_add ys.length hx
      simp [refusal?, hl, hx, ← Nat.add_assoc, hxy]
    · have hkept : refuses (some limit) (c.kept.append xs).size = false := by
        rw [hsize]
        simpa using hx
      have hxy := refuses_size_bound ys.length hkept
      rw [hsize] at hxy
      simp [refusal?, hl, hx, recorded, hxy, Nat.add_assoc]

/-! ### Any number of chunks -/

/-- A capture keeps no more than its limit lets it. -/
def Fits (c : Capture) : Prop :=
  ∀ limit, c.limit = some limit → c.kept.size ≤ limit.maxBytes.toNat

theorem fits_start (source : Stream) (live : Bool) (limit : Option CaptureLimit) :
    (start source live limit).Fits := by
  intro l _
  exact Nat.zero_le _

theorem fits_recorded (c : Capture) (chunk : Bytes) : (c.recorded chunk).Fits := by
  intro l hl
  have hl' : c.limit = some l := hl
  simp only [recorded, hl', bound, Trail.size_takeLast]
  omega

/-- An empty chunk is not refused. -/
theorem refusal?_nil {c : Capture} (h : c.Fits) : c.refusal? [] = none := by
  rw [refusal?_eq_none_iff]
  rcases hl : c.limit with _ | ⟨maxBytes, strategy⟩
  · rfl
  · cases strategy with
    | dropOldest => rfl
    | fail => simpa [refuses] using h _ hl

/-- Nothing changes with an empty chunk. -/
theorem recorded_nil {c : Capture} (h : c.Fits) : c.recorded [] = c := by
  have hlines : (c.lines.map fun b => (b.push []).2) = c.lines := by
    cases c.lines <;> simp
  rw [recorded, hlines, Trail.append_nil]
  cases hl : c.limit with
  | none => simp [bound, excess, ← hl]
  | some limit =>
    have hle := h limit hl
    simp [bound, excess, Trail.takeLast_of_le hle, Nat.sub_eq_zero_of_le hle, ← hl]

@[simp] theorem completed_nil (c : Capture) : c.completed [] = [] := by
  unfold completed
  split <;> simp

/-- Record chunks one after the other, until one is refused. -/
def recordAll (c : Capture) : List Bytes → Recording
  | [] => ⟨c, [], .ok ()⟩
  | chunk :: chunks =>
    match c.record chunk with
    | ⟨left, lines, .error o⟩ => ⟨left, lines, .error o⟩
    | ⟨left, lines, .ok ()⟩ =>
      let after := left.recordAll chunks
      { after with emitted := lines ++ after.emitted }

/-- **However octets are cut into chunks, recording the chunks is recording the octets.** -/
theorem recordAll_of_not_refusal {c : Capture} {chunks : List Bytes} (h : c.Fits)
    (hr : c.refusal? chunks.flatten = none) :
    c.recordAll chunks = ⟨c.recorded chunks.flatten, c.completed chunks.flatten, .ok ()⟩ := by
  induction chunks generalizing c with
  | nil => rw [recordAll, List.flatten_nil, recorded_nil h, completed_nil]
  | cons chunk chunks ih =>
    rw [List.flatten_cons, refusal?_append, Option.or_eq_none_iff] at hr
    simp only [recordAll, record_of_not_refusal hr.1, ih (fits_recorded c chunk) hr.2,
      List.flatten_cons, recorded_append, completed_append]

/-- Octets that are too much together are so in any chunks. -/
theorem result_recordAll_of_refusal {c : Capture} {chunks : List Bytes} {o : Overflow}
    (h : c.Fits) (hr : c.refusal? chunks.flatten = some o) :
    (c.recordAll chunks).result = .error o := by
  induction chunks generalizing c with
  | nil =>
    rw [List.flatten_nil, refusal?_nil h] at hr
    contradiction
  | cons chunk chunks ih =>
    rw [List.flatten_cons, refusal?_append] at hr
    cases hx : c.refusal? chunk with
    | some p =>
      obtain rfl : p = o := by simpa [hx] using hr
      rw [recordAll, record_of_refusal hx]
    | none =>
      rw [hx, Option.none_or] at hr
      rw [recordAll, record_of_not_refusal hx]
      exact ih (fits_recorded c chunk) hr

/-- Record chunks and then finish: what one capture makes of a stream that ends. -/
def recordToEnd (c : Capture) (chunks : List Bytes) : Recording :=
  match c.recordAll chunks with
  | ⟨left, lines, .error o⟩ => ⟨left, lines, .error o⟩
  | ⟨left, lines, .ok ()⟩ => ⟨left.finish.1, lines ++ left.finish.2, .ok ()⟩

/-! ### Lines of one stream -/

theorem linesFrom_map_line (s t : Stream) (texts : List String) :
    Emission.linesFrom t (texts.map (.line s)) = if s = t then texts else [] := by
  induction texts with
  | nil => simp [Emission.linesFrom]
  | cons text texts ih =>
    rw [List.map_cons, ← List.singleton_append, Emission.linesFrom_append, ih]
    by_cases hst : s = t <;> simp [Emission.linesFrom, hst]

/-- Recording lets out no line of another stream. -/
theorem linesFrom_completed {c : Capture} {t : Stream} (chunk : Bytes) (ht : c.source ≠ t) :
    Emission.linesFrom t (c.completed chunk) = [] := by
  unfold completed
  split
  · rfl
  · rw [linesFrom_map_line, if_neg ht]

/-- Finishing lets out no line of another stream. -/
theorem linesFrom_finish {c : Capture} {t : Stream} (ht : c.source ≠ t) :
    Emission.linesFrom t c.finish.2 = [] := by
  have hlast : Emission.linesFrom t c.lastLine = [] := by
    unfold lastLine
    split
    · rfl
    · rw [linesFrom_map_line, if_neg ht]
  have hnote : Emission.linesFrom t c.lossNote = [] := by
    unfold lossNote
    split <;> rfl
  rw [finish, Emission.linesFrom_append, hlast, hnote, List.append_nil]

/-! ### The log -/

theorem logs_map_line (s : Stream) (texts : List String) :
    Emission.logs (texts.map (.line s)) = [] := by
  simp [Emission.logs]

/-- Recording writes nothing to the log. -/
@[simp] theorem logs_completed (c : Capture) (chunk : Bytes) :
    Emission.logs (c.completed chunk) = [] := by
  unfold completed
  split
  · rfl
  · exact logs_map_line _ _

@[simp] theorem logs_lastLine (c : Capture) : Emission.logs c.lastLine = [] := by
  unfold lastLine
  split
  · rfl
  · exact logs_map_line _ _

/-- The log of a stream that has ended says what the limit cost, and nothing else. -/
@[simp] theorem logs_finish (c : Capture) :
    Emission.logs c.finish.2 = Emission.logs c.lossNote := by
  rw [finish, Emission.logs_append, logs_lastLine, List.nil_append]

/-- What is said about the limit is a warning. -/
theorem warn_of_mem_lossNote {c : Capture} {entry : LogEntry}
    (h : entry ∈ Emission.logs c.lossNote) : entry.level = .warn ∧ entry.source = .capture := by
  unfold lossNote at h
  split at h
  · simp [Emission.logs] at h
  · simp only [Emission.logs, List.filterMap_cons, List.filterMap_nil, List.mem_singleton] at h
    subst h
    exact ⟨rfl, rfl⟩

end Capture

end Outflow
