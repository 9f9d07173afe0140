import Outflow.Proofs.Lines

/-!
# The octets of a text

A character below 128 is one octet, and every other character is made of octets from 128 on.  So
an octet that ends a line is never a part of another character, and splitting the octets of a text
at newlines is splitting the text (`splitOn_ofText`).
-/

namespace Outflow

namespace Bytes

/-! ### Octets and texts -/

theorem eq_ofText_of_utf8? {bs : Bytes} {t : String} (h : utf8? bs = some t) : bs = ofText t := by
  unfold utf8? String.fromUTF8? at h
  split at h
  · cases h
    simp [ofText, String.fromUTF8]
  · contradiction

/-- What is shown for the octets of a text is the text. -/
@[simp] theorem text_ofText (t : String) : text (ofText t) = t := by
  rw [text, utf8?_ofText, Option.getD_some]

theorem ofText_eq_flatMap (t : String) : ofText t = t.toList.flatMap String.utf8EncodeChar := by
  rw [ofText, ← String.utf8Encode_toList, List.utf8Encode]
  simp

theorem ofText_ofList (cs : List Char) :
    ofText (String.ofList cs) = cs.flatMap String.utf8EncodeChar := by
  rw [ofText_eq_flatMap, String.toList_ofList]

/-! ### Newlines -/

private theorem le_ofNat {n : Nat} (h : 128 ≤ n % 256) : 128 ≤ UInt8.ofNat n := by
  rw [UInt8.le_iff_toNat_le, UInt8.toNat_ofNat']
  exact h

/-- No octet of a character from 128 on is below 128. -/
theorem le_of_mem_utf8EncodeChar {c : Char} {b : UInt8} (hc : 128 ≤ c.toNat)
    (hb : b ∈ String.utf8EncodeChar c) : 128 ≤ b := by
  have hhigh : ¬c.val.toNat ≤ 127 := Nat.not_le_of_lt hc
  rw [String.utf8EncodeChar, if_neg hhigh] at hb
  -- The first octet begins with two bits set at least, and every further one with one.
  split at hb
  · simp only [List.mem_cons, List.not_mem_nil, or_false] at hb
    rcases hb with rfl | rfl <;> exact le_ofNat (by omega)
  · split at hb
    · simp only [List.mem_cons, List.not_mem_nil, or_false] at hb
      rcases hb with rfl | rfl | rfl <;> exact le_ofNat (by omega)
    · simp only [List.mem_cons, List.not_mem_nil, or_false] at hb
      rcases hb with rfl | rfl | rfl | rfl <;> exact le_ofNat (by omega)

theorem utf8EncodeChar_of_lt {c : Char} (h : c.toNat < 128) :
    String.utf8EncodeChar c = [UInt8.ofNat c.toNat] := by
  have hle : c.val.toNat ≤ 127 := Nat.le_of_lt_succ h
  rw [String.utf8EncodeChar, if_pos hle]
  rfl

/-- Only the newline has the octet that ends a line. -/
theorem newline_not_mem_utf8EncodeChar {c : Char} (h : c ≠ '\n') :
    newline ∉ String.utf8EncodeChar c := by
  intro hmem
  by_cases hc : c.toNat < 128
  · rw [utf8EncodeChar_of_lt hc, List.mem_singleton] at hmem
    have hten : (10 : Nat) = c.toNat % 256 := by
      have htoNat := congrArg UInt8.toNat hmem
      rwa [UInt8.toNat_ofNat'] at htoNat
    apply h
    rw [← Char.ofNat_toNat c, ← Nat.mod_eq_of_lt (by omega : c.toNat < 256), ← hten]
  · have hhigh := le_of_mem_utf8EncodeChar (Nat.le_of_not_lt hc) hmem
    contradiction

/-- A list is split at an element as its codes are at the code of that element, if no other
    element has it in its code. -/
theorem splitOn_flatMap {α β : Type} [BEq α] [LawfulBEq α] [BEq β] [LawfulBEq β] {a : α} {b : β}
    {f : α → List β} (ha : f a = [b]) (hf : ∀ x, x ≠ a → b ∉ f x) (l : List α) :
    (l.flatMap f).splitOn b = (l.splitOn a).map (List.flatMap f) := by
  induction l with
  | nil => simp
  | cons x l ih =>
    rw [List.flatMap_cons, List.splitOn_cons_eq_if_modifyHead]
    by_cases hx : x = a
    · rw [hx, ha, List.singleton_append, List.splitOn_cons_eq_if_modifyHead, ih]
      simp
    · rw [splitOn_append_of_not_mem _ (hf x hx), ih]
      obtain ⟨piece, rest, h⟩ := List.exists_cons_of_ne_nil (List.splitOn_ne_nil a l)
      simp [h, hx]

/-- **Splitting the octets of a text at newlines is splitting the text.** -/
theorem splitOn_ofText (t : String) :
    (ofText t).splitOn newline = (t.toList.splitOn '\n').map (ofText ∘ String.ofList) := by
  have hof : ofText ∘ String.ofList = List.flatMap String.utf8EncodeChar := funext ofText_ofList
  rw [ofText_eq_flatMap, hof]
  exact splitOn_flatMap (by decide) (fun c hc => newline_not_mem_utf8EncodeChar hc) t.toList

end Bytes

end Outflow
