import Mathlib.Data.List.Forall2
import Outflow.Proofs.Text.Escape
import Outflow.Text.Tail

/-!
# The last lines, from the text and from the octets

The last lines of an output are taken from the whole text shown for it, without the newlines at
its end.  A line buffer puts lines together from chunks of octets and decodes each by itself.  On
text that is UTF-8 both come to the same lines, once those at the end that are empty are left out
(`tailLines_eq_lines`).

Of any octets, the last lines are what is shown of their last pieces, where the whole output decides
whether a piece is decoded or spelled out.  They are a text without a newline at its end, so that
taking last lines a second time takes the fewer of the two (`tailLines_octets`).
-/

namespace Outflow

namespace Bytes

/-! ### Pieces at the end -/

section Pieces

variable {α : Type} [DecidableEq α] {a x : α}

/-- An element that is no separator ends the last piece. -/
theorem exists_splitOn_concat (h : x ≠ a) (l : List α) :
    ∃ pieces piece, (l ++ [x]).splitOn a = pieces ++ [piece ++ [x]] := by
  induction l with
  | nil => exact ⟨[], [], by simp [List.splitOn_cons_eq_if_modifyHead, h]⟩
  | cons y l ih =>
    obtain ⟨pieces, piece, hl⟩ := ih
    rw [List.cons_append, List.splitOn_cons_eq_if_modifyHead, hl]
    by_cases hy : y = a
    · exact ⟨[] :: pieces, piece, by simp [hy]⟩
    · cases pieces with
      | nil => exact ⟨[], y :: piece, by simp [hy]⟩
      | cons first pieces => exact ⟨(y :: first) :: pieces, piece, by simp [hy]⟩

/-- Without the empty pieces at the end, a list is split as if it had no separators there. -/
theorem rdropWhile_splitOn (a : α) (l : List α) :
    (l.splitOn a).rdropWhile (· = []) =
      if l.rdropWhile (· = a) = [] then [] else (l.rdropWhile (· = a)).splitOn a := by
  induction l using List.reverseRecOn with
  | nil => simp
  | append_singleton l x ih =>
    by_cases hx : x = a
    · subst hx
      rw [List.splitOn_append_cons_self, List.splitOn_nil,
        List.rdropWhile_concat_pos _ _ _ (by simp), List.rdropWhile_concat_pos _ _ _ (by simp), ih]
    · obtain ⟨pieces, piece, hl⟩ := exists_splitOn_concat hx l
      rw [List.rdropWhile_concat_neg _ _ _ (by simpa using hx), if_neg (by simp), hl,
        List.rdropWhile_concat_neg _ _ _ (by simp)]

/-- A list has no separators at its end if none of its pieces there is empty. -/
theorem rdropWhile_of_splitOn {l : List α} (h : (l.splitOn a).rdropWhile (· = []) = l.splitOn a) :
    l.rdropWhile (· = a) = l := by
  rw [rdropWhile_splitOn] at h
  split at h
  · exact absurd h.symm (List.splitOn_ne_nil a l)
  · calc l.rdropWhile (· = a)
      _ = [a].intercalate ((l.rdropWhile (· = a)).splitOn a) := (List.intercalate_splitOn a).symm
      _ = [a].intercalate (l.splitOn a) := by rw [h]
      _ = l := List.intercalate_splitOn a

/-- No piece has a separator in it. -/
theorem not_mem_of_mem_splitOn {l piece : List α} (h : piece ∈ l.splitOn a) : a ∉ piece := by
  induction l generalizing piece with
  | nil =>
    rw [List.splitOn_nil, List.mem_singleton] at h
    simp [h]
  | cons x l ih =>
    obtain ⟨first, rest, hl⟩ := List.exists_cons_of_ne_nil (List.splitOn_ne_nil a l)
    rw [List.splitOn_cons_eq_if_modifyHead] at h
    rw [hl] at h ih
    by_cases hx : x = a
    · rw [if_pos (by simpa using hx), List.mem_cons] at h
      rcases h with rfl | h
      · simp
      · exact ih h
    · rw [if_neg (by simpa using hx), List.modifyHead_cons, List.mem_cons] at h
      rcases h with rfl | h
      · simp [Ne.symm hx, ih (List.mem_cons_self ..)]
      · exact ih (List.mem_cons_of_mem _ h)

end Pieces

section Ends

variable {α : Type}

theorem rtake_min_length (l : List α) (n : Nat) : l.rtake (min n l.length) = l.rtake n := by
  rw [List.rtake, List.rtake]
  congr 1
  omega

theorem rtake_rtake (l : List α) (m n : Nat) : (l.rtake n).rtake m = l.rtake (min m n) := by
  simp [List.rtake_eq_reverse_take_reverse, List.take_take]

theorem rdropWhile_rtake {p : α → Bool} {l : List α} (h : l.rdropWhile p = l) (n : Nat) :
    (l.rtake n).rdropWhile p = l.rtake n := by
  rw [List.rdropWhile_eq_self_iff] at h ⊢
  intro hne
  have hl : l ≠ [] := by
    rintro rfl
    simp at hne
  have hlast : (l.rtake n).getLast hne = l.getLast hl := by
    simp only [List.rtake]
    rw [List.getLast_drop]
  rw [hlast]
  exact h hl

end Ends

theorem rdropWhile_map {α β : Type} (f : α → β) (p : β → Bool) (l : List α) :
    (l.map f).rdropWhile p = (l.rdropWhile (p ∘ f)).map f := by
  simp [List.rdropWhile, ← List.map_reverse, List.dropWhile_map]

/-! ### The last pieces of a text -/

/-- The last pieces of the text, not counting empty ones at the end. -/
def lastPieces (bs : Bytes) (n : Nat) : List (List Char) :=
  (((text bs).toList.splitOn '\n').rdropWhile (· = [])).rtake n

/-- The last lines are put together from the last pieces. -/
theorem tailLines_eq (bs : Bytes) (n : Nat) :
    tailLines bs n = "\n".intercalate ((lastPieces bs n).map String.ofList) := by
  have hbody : withoutFinalNewlines (text bs).toList =
      (text bs).toList.rdropWhile (· = '\n') := rfl
  rw [tailLines, lastPieces, rdropWhile_splitOn, hbody]
  by_cases hempty : (text bs).toList.rdropWhile (· = '\n') = []
  · simp [hempty, List.rtake]
  · by_cases hn : n = 0
    · simp [hempty, hn, List.rtake]
    · simp [hempty, hn, List.rtake]

/-! ### Lines put together -/

/-- What a new buffer makes of chunks and the end of the stream. -/
theorem lines_of_chunks (chunks : List Bytes) :
    (LineBuffer.empty.runUses (chunks.map .push ++ [.flush])).1 =
      allLines chunks.flatten := by
  have hlines := (LineBuffer.runUses_eq (chunks.map .push ++ [.flush])
    (b := LineBuffer.empty) (by simp)).1
  rw [hlines, LineBuffer.segments_map_push]
  simp [LineBuffer.segments, LineBuffer.segmentLines, completeLines]

/-- The lines of an output are its decoded pieces, but for an empty one at the end. -/
theorem rdropWhile_allLines (bs : Bytes) :
    bs.allLines.rdropWhile (· = "") = ((bs.splitOn newline).map text).rdropWhile (· = "") := by
  have hsplit : (bs.splitOn newline).dropLast ++ [bs.afterNewline] = bs.splitOn newline := by
    have hne := List.splitOn_ne_nil newline bs
    rw [← getLastD_splitOn, List.getLastD_eq_getLast?, List.getLast?_eq_some_getLast hne,
      Option.getD_some, List.dropLast_append_getLast]
  rw [allLines, completeLines]
  nth_rewrite 2 [← hsplit]
  rw [List.map_append]
  by_cases hlast : bs.afterNewline = []
  · have hempty : text [] = "" := rfl
    simp [hlast, hempty, List.rdropWhile_concat_pos]
  · simp [hlast]

/-- **On UTF-8, the last lines of the text are the last lines put together from any chunks.** -/
theorem tailLines_eq_lines {data : Bytes} (h : (utf8? data).isSome) (chunks : List Bytes)
    (hcut : chunks.flatten = data) (n : Nat) :
    let lines := (LineBuffer.empty.runUses (chunks.map .push ++ [.flush])).1.rdropWhile (· = "")
    tailLines data n = "\n".intercalate (lines.rtake (min n lines.length)) := by
  intro lines
  obtain ⟨t, ht⟩ := Option.isSome_iff_exists.1 h
  have hdata : data = ofText t := eq_ofText_of_utf8? ht
  have hlines : lines = ((t.toList.splitOn '\n').rdropWhile (· = [])).map String.ofList := by
    have hpieces : (data.splitOn newline).map text =
        (t.toList.splitOn '\n').map String.ofList := by
      rw [hdata, splitOn_ofText, List.map_map]
      simp [Function.comp_def]
    simp only [lines]
    rw [lines_of_chunks, hcut, rdropWhile_allLines, hpieces, rdropWhile_map]
    simp [Function.comp_def]
  rw [rtake_min_length, hlines, tailLines_eq, lastPieces, hdata, text_ofText]
  simp [List.rtake]

/-- A character in two parts, an empty line, and newlines at the end. -/
theorem tailLines_eq_lines_character :
    let data : Bytes := [97, 10, 10, 195, 169, 10, 10]
    let chunks : List Bytes := [[97, 10, 10, 195], [169, 10, 10]]
    (utf8? data).isSome ∧ chunks.flatten = data ∧ tailLines data 2 = "\né" := by
  intro data chunks
  have hutf8 : (utf8? data).isSome := by decide
  exact ⟨hutf8, rfl, (tailLines_eq_lines hutf8 chunks rfl 2).trans (by decide)⟩

/-! ### Lines of octets -/

/-- What is shown of one of the pieces of `whole`: the text that it encodes if all of `whole` is
    UTF-8, and otherwise each of its octets spelled out. -/
def ShownAs (whole piece : Bytes) (line : String) : Prop :=
  if (utf8? whole).isSome then utf8? piece = some line else escape piece = line

/-- The pieces of the text shown are what is shown of the pieces of the octets. -/
theorem exists_lines (bs : Bytes) :
    ∃ line : Bytes → String, (∀ piece ∈ bs.splitOn newline, ShownAs bs piece (line piece)) ∧
      (∀ piece, line piece = "" ↔ piece = []) ∧
      (text bs).toList.splitOn '\n' = (bs.splitOn newline).map (String.toList ∘ line) := by
  cases h : utf8? bs with
  | some t =>
    obtain rfl := eq_ofText_of_utf8? h
    refine ⟨text, fun piece hpiece => ?_, text_eq_empty_iff, ?_⟩
    · rw [splitOn_ofText] at hpiece
      obtain ⟨cs, -, rfl⟩ := List.mem_map.1 hpiece
      simp [ShownAs, utf8?_ofText]
    · rw [text_ofText, splitOn_ofText, List.map_map]
      simp [Function.comp_def]
  | none =>
    refine ⟨escape, fun piece _ => ?_, escape_eq_empty_iff, ?_⟩
    · simp [ShownAs, h]
    · rw [text_of_malformed h, splitOn_escape]

/-- The last lines are what is shown of the last pieces, not counting empty ones at the end. -/
theorem exists_tailLines_eq (bs : Bytes) (n : Nat) :
    ∃ lines,
      List.Forall₂ (ShownAs bs) (((bs.splitOn newline).rdropWhile (· = [])).rtake n) lines ∧
      tailLines bs n = "\n".intercalate lines := by
  obtain ⟨line, hshown, hempty, hsplit⟩ := exists_lines bs
  -- Nothing is shown of an empty piece only, so the same pieces are left out at the end.
  have hpred : (fun cs : List Char => decide (cs = [])) ∘ String.toList ∘ line =
      fun piece => decide (piece = []) := by
    funext piece
    simp [hempty]
  refine ⟨(((bs.splitOn newline).rdropWhile (· = [])).rtake n).map line, ?_, ?_⟩
  · rw [List.forall₂_map_right_iff, List.forall₂_same]
    intro piece hpiece
    exact hshown piece ((List.rdropWhile_prefix _ _).mem (List.mem_of_mem_drop hpiece))
  · rw [tailLines_eq, lastPieces, hsplit, rdropWhile_map, hpred]
    simp [List.rtake, List.map_drop, Function.comp_def]

/-! ### Last lines as a text -/

theorem length_lastPieces_le (bs : Bytes) (n : Nat) : (lastPieces bs n).length ≤ n := by
  rw [lastPieces, List.rtake, List.length_drop]
  omega

theorem rdropWhile_lastPieces (bs : Bytes) (n : Nat) :
    (lastPieces bs n).rdropWhile (· = []) = lastPieces bs n :=
  rdropWhile_rtake (List.rdropWhile_idempotent _ _) n

theorem not_mem_of_mem_lastPieces {bs : Bytes} {n : Nat} {piece : List Char}
    (h : piece ∈ lastPieces bs n) : '\n' ∉ piece :=
  not_mem_of_mem_splitOn ((List.rdropWhile_prefix _ _).mem (List.mem_of_mem_drop h))

theorem toList_tailLines (bs : Bytes) (n : Nat) :
    (tailLines bs n).toList = ['\n'].intercalate (lastPieces bs n) := by
  rw [tailLines_eq, String.toList_intercalate, List.map_map]
  simp [Function.comp_def]

theorem tailLines_of_lastPieces {bs : Bytes} {n : Nat} (h : lastPieces bs n = []) :
    tailLines bs n = "" := by
  rw [← String.toList_inj, toList_tailLines, h]
  rfl

/-- The last lines have the pieces that they were put together from. -/
theorem splitOn_tailLines {bs : Bytes} {n : Nat} (h : lastPieces bs n ≠ []) :
    (tailLines bs n).toList.splitOn '\n' = lastPieces bs n := by
  rw [toList_tailLines]
  exact List.splitOn_intercalate '\n' (fun _ => not_mem_of_mem_lastPieces) h

/-- Taking last lines of last lines takes the fewer of the two. -/
theorem tailLines_tailLines (bs : Bytes) (m n : Nat) :
    tailLines (ofText (tailLines bs n)) m = tailLines bs (min m n) := by
  have hpieces : ((tailLines bs n).toList.splitOn '\n').rdropWhile (· = []) =
      lastPieces bs n := by
    by_cases h : lastPieces bs n = []
    · rw [tailLines_of_lastPieces h, h]
      rfl
    · rw [splitOn_tailLines h, rdropWhile_lastPieces]
  have hlast : lastPieces (ofText (tailLines bs n)) m = lastPieces bs (min m n) := by
    rw [lastPieces, text_ofText, hpieces, lastPieces, rtake_rtake, lastPieces]
  rw [tailLines_eq, hlast, tailLines_eq]

theorem getLast?_tailLines (bs : Bytes) (n : Nat) :
    (tailLines bs n).toList.getLast? ≠ some '\n' := by
  by_cases h : lastPieces bs n = []
  · rw [tailLines_of_lastPieces h]
    decide
  · have hself : (tailLines bs n).toList.rdropWhile (· = '\n') = (tailLines bs n).toList :=
      rdropWhile_of_splitOn (by rw [splitOn_tailLines h, rdropWhile_lastPieces])
    intro hnewline
    obtain ⟨hne, hlast⟩ := List.mem_getLast?_eq_getLast hnewline
    exact List.rdropWhile_eq_self_iff.1 hself hne (by simp [← hlast])

/-- **The last lines of any octets are shown of their last pieces, and are no more than were asked
    for.**  Newlines at the end of the octets end no piece. -/
theorem tailLines_octets (bs : Bytes) (n : Nat) :
    let body := bs.rdropWhile (· = newline)
    let pieces := body.splitOn newline
    let shown := tailLines bs n
    (n = 0 ∨ body = [] → shown = "") ∧
    (¬(n = 0 ∨ body = []) → ∃ lines,
      List.Forall₂ (ShownAs bs) (pieces.rtake (min n pieces.length)) lines ∧
      shown = "\n".intercalate lines) ∧
    (shown ≠ "" → (shown.toList.splitOn '\n').length ≤ n) ∧
    shown.toList.getLast? ≠ some '\n' ∧
    ∀ m, tailLines (ofText shown) m = tailLines bs (min m n) := by
  intro body pieces shown
  obtain ⟨lines, hlines, hshown⟩ := exists_tailLines_eq bs n
  rw [rdropWhile_splitOn] at hlines
  refine ⟨fun hnone => ?_, fun hsome => ?_, fun hne => ?_, getLast?_tailLines bs n,
    fun m => tailLines_tailLines bs m n⟩
  · have hempty : (if body = [] then [] else pieces).rtake n = [] := by
      rcases hnone with rfl | hbody
      · exact List.rtake_zero _
      · rw [if_pos hbody, List.rtake_nil]
    rw [hempty] at hlines
    cases hlines
    exact hshown
  · rw [if_neg (not_or.1 hsome).2] at hlines
    rw [rtake_min_length]
    exact ⟨lines, hlines, hshown⟩
  · have hpieces : lastPieces bs n ≠ [] := fun h => hne (tailLines_of_lastPieces h)
    rw [splitOn_tailLines hpieces]
    exact length_lastPieces_le bs n

/-- Three lines of octets that are not UTF-8, one of them empty: in the last one a character is
    spelled out for the sake of an octet beside it. -/
theorem tailLines_octets_malformed :
    let bs : Bytes := [10, 97, 10, 10, 195, 169, 255, 10, 10]
    ¬(3 = 0 ∨ bs.rdropWhile (· = newline) = []) ∧
    (∃ lines, List.Forall₂ (ShownAs bs) [[97], [], [195, 169, 255]] lines ∧
      tailLines bs 3 = "\n".intercalate lines) ∧
    tailLines bs 3 = "a\n\n\\xc3\\xa9\\xff" := by
  intro bs
  have hsome : ¬(3 = 0 ∨ bs.rdropWhile (· = newline) = []) := by decide
  exact ⟨hsome, (tailLines_octets bs 3).2.1 hsome, by decide⟩

end Bytes

end Outflow
