import Mathlib.Data.List.TakeWhile
import Outflow.Text.Numeral

/-!
# Spans and decimal digits

Readers take the longest front of a text whose characters are of one kind, and numbers are
written with `Nat.toDigits`.  What a reader of spans gets of a number, and that a number is not
written with zeros in front.
-/

namespace Outflow

namespace Text

/-! ### Spans -/

/-- A span ends where a character of another kind comes, or nothing. -/
theorem takeWhile_append_of_head? {p : Char → Bool} {xs ys : List Char}
    (hxs : ∀ c ∈ xs, p c = true) (hys : ∀ c ∈ ys.head?, p c = false) :
    (xs ++ ys).takeWhile p = xs := by
  rw [List.takeWhile_append_of_pos hxs]
  cases ys with
  | nil => simp
  | cons y ys => simp [hys y rfl]

theorem dropWhile_append_of_head? {p : Char → Bool} {xs ys : List Char}
    (hxs : ∀ c ∈ xs, p c = true) (hys : ∀ c ∈ ys.head?, p c = false) :
    (xs ++ ys).dropWhile p = ys := by
  rw [List.dropWhile_append_of_pos hxs]
  cases ys with
  | nil => simp
  | cons y ys => simp [hys y rfl]

/-- A span that begins with another character is empty. -/
theorem dropWhile_of_head? {p : Char → Bool} {ys : List Char}
    (hys : ∀ c ∈ ys.head?, p c = false) : ys.dropWhile p = ys :=
  dropWhile_append_of_head? (List.forall_mem_nil _) hys

/-- A span of everything. -/
theorem takeWhile_of_forall {p : Char → Bool} {xs : List Char} (hxs : ∀ c ∈ xs, p c = true) :
    xs.takeWhile p = xs := List.takeWhile_eq_self_iff.2 hxs

theorem dropWhile_of_forall {p : Char → Bool} {xs : List Char} (hxs : ∀ c ∈ xs, p c = true) :
    xs.dropWhile p = [] := List.dropWhile_eq_nil_iff.2 hxs

/-! ### Digits -/

theorem isDigit_iff (c : Char) : c.isDigit = true ↔ '0' ≤ c ∧ c ≤ '9' := by
  simp [Char.isDigit, Char.le_def]

/-- The digits are the characters from 48 on. -/
theorem toNat_of_isDigit {c : Char} (h : c.isDigit = true) : 48 ≤ c.toNat ∧ c.toNat ≤ 57 := by
  obtain ⟨hlow, hhigh⟩ := (isDigit_iff c).1 h
  exact ⟨hlow, hhigh⟩

/-- What holds of the ten digits holds of every digit. -/
theorem forall_isDigit {p : Char → Prop} (h : ∀ d < 10, p (Nat.digitChar d)) {c : Char}
    (hc : c.isDigit = true) : p c := by
  have hrange := toNat_of_isDigit hc
  have hdigit : Nat.digitChar (c.toNat - 48) = c := by
    rw [← Char.toNat_inj, Nat.toNat_digitChar_of_lt_ten (by omega)]
    omega
  exact hdigit ▸ h (c.toNat - 48) (by omega)

theorem ne_of_isDigit {c d : Char} (hc : c.isDigit = true) (hd : d.isDigit = false) : c ≠ d := by
  rintro rfl
  exact absurd hc (Bool.eq_false_iff.1 hd)

theorem digit?_of_isDigit {c : Char} (h : c.isDigit = true) : digit? c = some (c.toNat - 48) := by
  rw [digit?, if_pos ((isDigit_iff c).1 h)]
  rfl

theorem isDigit_of_mem_toDigits {n : Nat} {c : Char} (h : c ∈ Nat.toDigits 10 n) :
    c.isDigit = true :=
  Nat.isDigit_of_mem_toDigits (by decide) (by decide) h

/-- A number begins with a digit. -/
theorem exists_toDigits_eq_cons (n : Nat) :
    ∃ d ds, Nat.toDigits 10 n = d :: ds ∧ d.isDigit = true := by
  obtain ⟨d, ds, h⟩ := List.exists_cons_of_ne_nil (Nat.toDigits_ne_nil (b := 10) (n := n))
  exact ⟨d, ds, h, isDigit_of_mem_toDigits (n := n) (h ▸ List.mem_cons_self)⟩

/-- Only zero is written with a zero in front. -/
theorem eq_zero_of_head?_toDigits {n : Nat} (h : (Nat.toDigits 10 n).head? = some '0') :
    n = 0 := by
  induction n using Nat.strongRecOn with
  | ind n ih =>
    by_cases hn : n < 10
    · rw [Nat.toDigits_of_lt_base hn] at h
      simpa [Nat.digitChar_eq_zero] using h
    · -- The digits before the last are those of a smaller number, which is not zero.
      obtain ⟨d, ds, hd, -⟩ := exists_toDigits_eq_cons (n / 10)
      rw [Nat.toDigits_of_base_le (by decide) (by omega), hd, List.cons_append,
        List.head?_cons] at h
      have hzero := ih (n / 10) (by omega) (by rw [hd, List.head?_cons, h])
      omega

theorem toDigits_eq_of_head? {n : Nat} (h : (Nat.toDigits 10 n).head? = some '0') :
    Nat.toDigits 10 n = ['0'] := by
  rw [eq_zero_of_head?_toDigits h, Nat.toDigits_zero]

end Text

end Outflow
