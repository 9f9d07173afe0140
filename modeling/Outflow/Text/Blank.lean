/-!
# Blank characters

The characters with the Unicode property `White_Space`.  They are what is trimmed from the
ends of a setting, what may stand inside a duration, and what alone names no program.
-/

namespace Outflow.Text

/-- Whether a character has the property `White_Space`. -/
def isBlank (c : Char) : Bool :=
  let n := c.toNat
  (9 ≤ n && n ≤ 13) || n == 0x20 || n == 0x85 || n == 0xA0 || n == 0x1680 ||
  (0x2000 ≤ n && n ≤ 0x200A) || n == 0x2028 || n == 0x2029 || n == 0x202F || n == 0x205F ||
  n == 0x3000

/-- A text without the blanks at its ends. -/
def trim (s : String) : String :=
  let front := s.toList.dropWhile isBlank
  String.ofList (front.reverse.dropWhile isBlank).reverse

/-- Whether a text has nothing but blanks. -/
def blank (s : String) : Bool := s.toList.all isBlank

/-- The property extends the ASCII class of the same name. -/
theorem isBlank_of_isWhitespace {c : Char} (h : c.isWhitespace = true) : isBlank c = true := by
  simp only [Char.isWhitespace, Bool.or_eq_true, decide_eq_true_eq] at h
  rcases h with ((h | h) | h) | h <;> subst h <;> rfl

/-- A text is blank just if trimming leaves nothing of it. -/
theorem blank_iff_trim_eq_empty (s : String) : blank s = true ↔ trim s = "" := by
  have hnil : ∀ l : List Char, l.dropWhile isBlank = [] ↔ l.all isBlank = true := by
    intro l
    induction l with
    | nil => simp
    | cons c cs ih => cases h : isBlank c <;> simp [h, ih]
  constructor
  · intro h
    have hd : s.toList.dropWhile isBlank = [] := (hnil _).2 h
    simp [trim, hd]
  · intro h
    have hr : ((s.toList.dropWhile isBlank).reverse.dropWhile isBlank).reverse = [] := by
      have := congrArg String.toList h
      simpa [trim] using this
    have hall : (s.toList.dropWhile isBlank).reverse.all isBlank = true :=
      (hnil _).1 (by simpa using hr)
    -- What is left in front begins with a character that is not blank, so it is empty.
    cases hl : s.toList.dropWhile isBlank with
    | nil => exact (hnil _).1 hl
    | cons c cs =>
      have hc : isBlank c = false := by
        have := List.head?_dropWhile_not isBlank s.toList
        simpa [hl] using this
      simp [hl, hc] at hall

end Outflow.Text
