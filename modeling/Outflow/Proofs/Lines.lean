import Mathlib.Data.List.DropRight
import Outflow.LineBuffer

/-!
# Lines do not depend on where chunks end

A `LineBuffer` sees output in chunks and gives out lines as they complete.  Here its lines
are compared with those of the whole output: `Bytes.completeLines` splits octets at newlines
and decodes every piece but the last, and `Bytes.allLines` adds the last piece unless it is
empty.

A buffer is used any number of times, for chunks and for flushes in any order (`Use`), and
`segments` is what was pushed between one flush and the next.

## Key results

- `push_append`: two chunks give what the joined chunk gives, for any buffer
- `push_lines` / `push_pending`: one chunk, in terms of the octets held back before it
- `runUses_eq`: any history, from a buffer that holds no newline
- `runUses_empty`: any history of a new buffer
-/

namespace Outflow

namespace Bytes

/-- The octets after the last newline, or all of them if there is none. -/
def afterNewline (bs : Bytes) : Bytes := bs.rtakeWhile (· != newline)

/-- The lines that a newline completes, decoded one by one. -/
def completeLines (bs : Bytes) : List String := (bs.splitOn newline).dropLast.map text

/-- The lines of output that has ended: what follows the last newline is a line as well,
    unless it is empty. -/
def allLines (bs : Bytes) : List String :=
  bs.completeLines ++ if bs.afterNewline = [] then [] else [text bs.afterNewline]

/-! ### Splitting at newlines -/

section Pieces

variable {α : Type} [BEq α] {a : α}

/-- The pieces of joined lists: the last piece of the first one runs on into the first piece of
    the second. -/
theorem splitOn_append (xs ys : List α) :
    (xs ++ ys).splitOn a =
      (xs.splitOn a).dropLast ++
        (ys.splitOn a).modifyHead ((xs.splitOn a).getLastD [] ++ ·) := by
  induction xs with
  | nil =>
    obtain ⟨t, ts, ht⟩ := List.exists_cons_of_ne_nil (List.splitOn_ne_nil a ys)
    simp [ht]
  | cons x xs ih =>
    obtain ⟨h, hs, hxs⟩ := List.exists_cons_of_ne_nil (List.splitOn_ne_nil a xs)
    obtain ⟨t, ts, hys⟩ := List.exists_cons_of_ne_nil (List.splitOn_ne_nil a ys)
    rw [hxs, hys] at ih
    rw [List.cons_append, List.splitOn_cons_eq_if_modifyHead, List.splitOn_cons_eq_if_modifyHead,
      ih, hxs, hys]
    by_cases hx : (x == a) = true
    · simp [hx]
    · -- `x` joins the first piece, which is the last one too if there is no separator.
      cases hs <;> simp [hx]

theorem splitOn_append_of_not_mem [LawfulBEq α] {xs : List α} (ys : List α) (h : a ∉ xs) :
    (xs ++ ys).splitOn a = (ys.splitOn a).modifyHead (xs ++ ·) := by
  simp [splitOn_append, List.splitOn_eq_singleton h]

end Pieces

/-- The last piece is what follows the last newline. -/
theorem getLastD_splitOn (bs : Bytes) : (bs.splitOn newline).getLastD [] = bs.afterNewline := by
  induction bs using List.reverseRecOn with
  | nil => simp [afterNewline]
  | append_singleton bs b ih =>
    rw [splitOn_append, ih]
    by_cases hb : b = newline
    · simp [hb, afterNewline, List.splitOn_cons_eq_if_modifyHead]
    · simp [hb, afterNewline, List.splitOn_cons_eq_if_modifyHead]

theorem newline_not_mem_afterNewline (bs : Bytes) : newline ∉ bs.afterNewline := by
  intro h
  simpa using List.mem_rtakeWhile_imp h

theorem afterNewline_of_not_mem {bs : Bytes} (h : newline ∉ bs) : bs.afterNewline = bs := by
  rw [afterNewline, List.rtakeWhile_eq_self_iff]
  intro b hb
  simpa using fun heq : b = newline => h (heq ▸ hb)

theorem completeLines_of_not_mem {bs : Bytes} (h : newline ∉ bs) : bs.completeLines = [] := by
  simp [completeLines, List.splitOn_eq_singleton h]

theorem afterNewline_append (xs ys : Bytes) :
    (xs ++ ys).afterNewline = (xs.afterNewline ++ ys).afterNewline := by
  rw [← getLastD_splitOn (xs ++ ys), ← getLastD_splitOn (xs.afterNewline ++ ys), splitOn_append,
    splitOn_append_of_not_mem ys (newline_not_mem_afterNewline xs), getLastD_splitOn]
  obtain ⟨t, ts, ht⟩ := List.exists_cons_of_ne_nil (List.splitOn_ne_nil newline ys)
  simp [ht, List.getLast?_cons]

/-- Lines complete one after the other: what follows the last newline waits for the rest. -/
theorem completeLines_append (xs ys : Bytes) :
    (xs ++ ys).completeLines = xs.completeLines ++ (xs.afterNewline ++ ys).completeLines := by
  unfold completeLines
  rw [splitOn_append, splitOn_append_of_not_mem ys (newline_not_mem_afterNewline xs),
    getLastD_splitOn]
  obtain ⟨t, ts, ht⟩ := List.exists_cons_of_ne_nil (List.splitOn_ne_nil newline ys)
  simp [ht]

theorem allLines_append (xs ys : Bytes) :
    (xs ++ ys).allLines = xs.completeLines ++ (xs.afterNewline ++ ys).allLines := by
  unfold allLines
  rw [completeLines_append, ← afterNewline_append, List.append_assoc]

end Bytes

namespace LineBuffer

open Bytes

/-! ### One chunk -/

/-- A buffer is what it holds back. -/
theorem ext_pending {b c : LineBuffer} (h : b.pending = c.pending) : b = c :=
  congrArg LineBuffer.mk (Trail.ext_toList h)

/-- `push`, with the pieces of the chunk as one list. -/
private theorem push_eq_modifyHead (b : LineBuffer) (chunk : Bytes) :
    b.push chunk =
      (((chunk.splitOn newline).modifyHead (b.pending ++ ·)).dropLast.map text,
        ⟨.ofList (((chunk.splitOn newline).modifyHead (b.pending ++ ·)).getLastD [])⟩) := by
  obtain ⟨first, rest, h⟩ := List.exists_cons_of_ne_nil (List.splitOn_ne_nil newline chunk)
  rw [push_eq h, h, List.modifyHead_cons]

/-- A chunk in two parts gives the same lines, and the same octets are held back. -/
theorem push_append (b : LineBuffer) (xs ys : Bytes) :
    b.push (xs ++ ys) =
      ((b.push xs).1 ++ ((b.push xs).2.push ys).1, ((b.push xs).2.push ys).2) := by
  obtain ⟨h, hs, hxs⟩ := List.exists_cons_of_ne_nil (List.splitOn_ne_nil newline xs)
  obtain ⟨t, ts, hys⟩ := List.exists_cons_of_ne_nil (List.splitOn_ne_nil newline ys)
  simp only [push_eq_modifyHead, splitOn_append, hxs, hys, pending, Trail.toList_ofList]
  cases hs with
  | nil => simp
  | cons h' hs => simp [List.getLast?_cons, List.dropLast_cons_of_ne_nil]

/-- An empty chunk changes nothing. -/
@[simp] theorem push_nil (b : LineBuffer) : b.push [] = ([], b) := by
  simp [push]

/-- The lines that a chunk completes, as long as no newline is held back. -/
theorem push_lines {b : LineBuffer} (chunk : Bytes) (h : newline ∉ b.pending) :
    (b.push chunk).1 = (b.pending ++ chunk).completeLines := by
  rw [push_eq_modifyHead, completeLines, splitOn_append_of_not_mem chunk h]

/-- What a chunk leaves to be held back. -/
theorem push_pending {b : LineBuffer} (chunk : Bytes) (h : newline ∉ b.pending) :
    (b.push chunk).2.pending = (b.pending ++ chunk).afterNewline := by
  rw [push_eq_modifyHead, ← getLastD_splitOn, splitOn_append_of_not_mem chunk h]
  simp [pending]

@[simp] theorem pending_empty : empty.pending = [] := rfl

theorem size_held (b : LineBuffer) : b.held.size = b.pending.length :=
  (Trail.length_toList b.held).symm

/-- After a flush nothing is held back. -/
@[simp] theorem flush_snd (b : LineBuffer) : b.flush.2 = empty := by
  unfold flush
  split
  · rename_i h
    rw [size_held] at h
    exact ext_pending (List.length_eq_zero_iff.1 h)
  · rfl

/-- A flush gives out what was held back, unless that is nothing. -/
theorem flush_fst (b : LineBuffer) :
    b.flush.1 = if b.pending = [] then none else some (text b.pending) := by
  unfold flush
  rw [size_held]
  simp only [List.length_eq_zero_iff]
  split <;> rfl

/-! ### Histories -/

/-- One use of a line buffer. -/
inductive Use where
  | push (chunk : Bytes)
  | flush

/-- The lines that one use gives out, and the buffer after it. -/
def use (b : LineBuffer) : Use → List String × LineBuffer
  | .push chunk => b.push chunk
  | .flush => (b.flush.1.toList, b.flush.2)

/-- The lines that a history of uses gives out, and the buffer after it. -/
def runUses (b : LineBuffer) : List Use → List String × LineBuffer
  | [] => ([], b)
  | u :: us => ((b.use u).1 ++ ((b.use u).2.runUses us).1, ((b.use u).2.runUses us).2)

/-- What a history pushes between its flushes.  The last segment has not been flushed. -/
def segments : List Use → List Bytes
  | [] => [[]]
  | .push chunk :: us => (segments us).modifyHead (chunk ++ ·)
  | .flush :: us => [] :: segments us

/-- What a history pushes after its last flush. -/
def openSegment (us : List Use) : Bytes := (segments us).getLastD []

/-- The lines that segments come to: all lines of a segment that was flushed, and the complete
    ones of the last. -/
def segmentLines (segs : List Bytes) : List String :=
  segs.dropLast.flatMap allLines ++ (segs.getLastD []).completeLines

theorem segments_ne_nil (us : List Use) : segments us ≠ [] := by
  induction us with
  | nil => simp [segments]
  | cons u us ih => cases u <;> simp [segments, ih]

/-- Chunks that are pushed one after the other count as one. -/
theorem segments_map_push (chunks : List Bytes) (us : List Use) :
    segments (chunks.map .push ++ us) = (segments us).modifyHead (chunks.flatten ++ ·) := by
  obtain ⟨g, gs, hg⟩ := List.exists_cons_of_ne_nil (segments_ne_nil us)
  rw [hg]
  induction chunks with
  | nil => simp [hg]
  | cons chunk chunks ih => simp [segments, ih]

theorem segments_append_congr (us : List Use) {vs ws : List Use} (h : segments vs = segments ws) :
    segments (us ++ vs) = segments (us ++ ws) := by
  induction us with
  | nil => exact h
  | cons u us ih => cases u <;> simp [segments, ih]

/-- Any history, from a buffer that holds no newline: what was held back before it counts as
    the beginning of its first segment. -/
theorem runUses_eq {b : LineBuffer} (us : List Use) (h : newline ∉ b.pending) :
    (b.runUses us).1 = segmentLines ((segments us).modifyHead (b.pending ++ ·)) ∧
    (b.runUses us).2.pending =
      (((segments us).modifyHead (b.pending ++ ·)).getLastD []).afterNewline := by
  induction us generalizing b with
  | nil =>
    simp [runUses, segments, segmentLines, completeLines_of_not_mem h, afterNewline_of_not_mem h]
  | cons u us ih =>
    obtain ⟨g, gs, hg⟩ := List.exists_cons_of_ne_nil (segments_ne_nil us)
    cases u with
    | push chunk =>
      have hpending := push_pending chunk h
      obtain ⟨hlines, hrest⟩ := ih (b := (b.push chunk).2)
        (hpending ▸ newline_not_mem_afterNewline _)
      simp only [runUses, use, segments, hg, List.modifyHead_cons, hpending] at hlines hrest ⊢
      rw [hlines, hrest, push_lines chunk h, ← List.append_assoc]
      -- The chunk belongs to the first segment, which is the last one too without a flush.
      cases gs with
      | nil =>
        have hcomplete := completeLines_append (b.pending ++ chunk) g
        have hafter := afterNewline_append (b.pending ++ chunk) g
        simp [segmentLines, ← hcomplete, ← hafter]
      | cons g' gs =>
        have hall := allLines_append (b.pending ++ chunk) g
        rw [List.append_assoc] at hall
        simp [segmentLines, hall]
    | flush =>
      obtain ⟨hlines, hrest⟩ := ih (b := empty) (by simp)
      have hflushed : b.flush.1.toList = b.pending.allLines := by
        rw [flush_fst, allLines, completeLines_of_not_mem h, afterNewline_of_not_mem h]
        split <;> simp
      simp only [runUses, use, segments, hg, List.modifyHead_cons, flush_snd, pending_empty,
        List.nil_append, List.append_nil] at hlines hrest ⊢
      rw [hlines, hrest, hflushed]
      simp [segmentLines]

/-- A new buffer over any history. -/
private theorem runUses_empty_eq (us : List Use) :
    (empty.runUses us).1 = segmentLines (segments us) ∧
    (empty.runUses us).2.pending = (openSegment us).afterNewline := by
  obtain ⟨g, gs, hg⟩ := List.exists_cons_of_ne_nil (segments_ne_nil us)
  simpa [hg, openSegment] using runUses_eq us (b := empty) (by simp)

/-- Only the segments of a history matter to a new buffer. -/
theorem runUses_empty_congr {us vs : List Use} (h : segments us = segments vs) :
    empty.runUses us = empty.runUses vs := by
  obtain ⟨hlines, hpending⟩ := runUses_empty_eq us
  obtain ⟨hlines', hpending'⟩ := runUses_empty_eq vs
  refine Prod.ext (by rw [hlines, hlines', h]) (ext_pending ?_)
  rw [hpending, hpending', openSegment, openSegment, h]

/-- A new buffer splits what is pushed into it at newlines, over any history of pushes and
    flushes.  It holds back the octets after the last newline since the last flush.  It has
    given out all lines of every segment that was flushed and the complete lines of the last
    one.  A second flush in a row gives nothing, and chunks may be cut differently anywhere. -/
theorem runUses_empty (us : List Use) :
    (empty.runUses us).2.pending = (openSegment us).afterNewline ∧
    newline ∉ (empty.runUses us).2.pending ∧
    (empty.runUses us).1 =
      (segments us).dropLast.flatMap allLines ++ (openSegment us).completeLines ∧
    (empty.runUses us).2.flush.2.flush.1 = none ∧
    ∀ (chunks chunks' : List Bytes) (vs : List Use), chunks.flatten = chunks'.flatten →
      empty.runUses (us ++ (chunks.map .push ++ vs)) =
        empty.runUses (us ++ (chunks'.map .push ++ vs)) := by
  obtain ⟨hlines, hpending⟩ := runUses_empty_eq us
  refine ⟨hpending, hpending ▸ newline_not_mem_afterNewline _, hlines, ?_, ?_⟩
  · simp [flush_fst]
  · intro chunks chunks' vs hcut
    apply runUses_empty_congr
    apply segments_append_congr
    rw [segments_map_push, segments_map_push, hcut]

/-- An empty line, a last line without a newline, and a character cut in two. -/
theorem runUses_empty_character :
    (empty.runUses [.push [195], .push [169, 10, 10], .flush, .push [97], .flush]).1 =
      ["é", "", "a"] ∧
    empty.runUses [.push [195], .push [169], .flush] =
      empty.runUses [.push [195, 169], .flush] := by
  obtain ⟨-, -, hlines, -⟩ :=
    runUses_empty [.push [195], .push [169, 10, 10], .flush, .push [97], .flush]
  obtain ⟨-, -, -, -, hcut⟩ := runUses_empty []
  exact ⟨hlines.trans (by decide), hcut [[195], [169]] [[195, 169]] [.flush] rfl⟩

end LineBuffer

end Outflow
