import Mathlib.Data.List.Basic
import Outflow.Proofs.Text.Decimal
import Outflow.Toml.Reader

/-!
# Documents of plain lines

Documents in which every line is blank, a header of one key, or a key with a number or a text
that needs no escapes.  Reading such a document does to the tables what its lines say, one after
the other.

## Key results

- `readValue_spelling`: a value is read back
- `readLines_spelling`: so is a line
- `read?_eq_foldlM`: so is a document
-/

namespace Outflow.Toml

/-! ### Lines -/

/-- A key that needs no quotes. -/
def IsBareKey (key : String) : Prop :=
  key.toList ≠ [] ∧ ∀ c ∈ key.toList, isBareKeyChar c = true

instance (key : String) : Decidable (IsBareKey key) :=
  @instDecidableAnd _ _ inferInstance (List.decidableBAll _ _)

/-- A text that stands in double quotes as it is. -/
def IsPlain (s : String) : Prop := ∀ c ∈ s.toList, isTextChar c = true ∧ c ≠ '"' ∧ c ≠ '\\'

instance (s : String) : Decidable (IsPlain s) := List.decidableBAll _ _

/-- A value in its plainest spelling. -/
inductive PlainValue where
  | number (n : Nat)
  | text (s : String)

namespace PlainValue

def value : PlainValue → Value
  | number n => .integer (some n)
  | text s => .string s

def spelling : PlainValue → List Char
  | number n => Nat.toDigits 10 n
  | text s => '"' :: s.toList ++ ['"']

/-- Whether the spelling stands for the value. -/
def Faithful : PlainValue → Prop
  | number _ => True
  | text s => IsPlain s

instance (v : PlainValue) : Decidable v.Faithful :=
  match v with
  | number _ => inferInstanceAs (Decidable True)
  | text s => inferInstanceAs (Decidable (IsPlain s))

end PlainValue

/-- A line of a document. -/
inductive Line where
  | blank
  | header (key : String)
  | assign (key : String) (v : PlainValue)

namespace Line

/-- The characters of a line, its end included. -/
def spelling : Line → List Char
  | blank => ['\n']
  | header key => '[' :: key.toList ++ [']', '\n']
  | assign key v => key.toList ++ [' ', '=', ' '] ++ v.spelling ++ ['\n']

/-- Whether the spelling stands for the line. -/
def Faithful : Line → Prop
  | blank => True
  | header key => IsBareKey key
  | assign key v => IsBareKey key ∧ v.Faithful

instance (l : Line) : Decidable l.Faithful :=
  match l with
  | blank => inferInstanceAs (Decidable True)
  | header key => inferInstanceAs (Decidable (IsBareKey key))
  | assign key v => inferInstanceAs (Decidable (IsBareKey key ∧ v.Faithful))

end Line

/-- What a line does to a document that has been read up to it. -/
def Progress.line? (p : Progress) : Line → Option Progress
  | .blank => some p
  | .header key => p.open? ⟨[], key, false⟩
  | .assign key v => p.assign? [] key v.value

/-! ### Values -/

theorem hexValue?_of_isDigit {c : Char} (h : c.isDigit = true) :
    hexValue? c = some (c.toNat - 48) := by
  rw [hexValue?, if_pos ((Text.isDigit_iff c).1 h)]

theorem digitsValue_of_isDigit {cs : List Char} (h : ∀ c ∈ cs, c.isDigit = true) :
    digitsValue 10 cs = Nat.ofDigitChars 10 cs 0 := by
  rw [digitsValue, Nat.ofDigitChars_eq_foldl]
  refine List.foldl_ext _ _ _ fun n c hc => ?_
  rw [hexValue?_of_isDigit (h c hc), Option.getD_some, Nat.mul_comm]
  rfl

/-- A number in decimal digits is read back. -/
theorem wholeDigits?_toDigits (n : Nat) :
    wholeDigits? (Nat.toDigits 10 n) = some (Nat.toDigits 10 n) := by
  have hdigits : digits? 10 (Nat.toDigits 10 n) = some (Nat.toDigits 10 n) := by
    have hsplit : (Nat.toDigits 10 n).splitOn '_' = [Nat.toDigits 10 n] :=
      List.splitOn_eq_singleton fun h => by simpa using Text.isDigit_of_mem_toDigits h
    have hall : ∀ c ∈ Nat.toDigits 10 n, (hexValue? c).any (· < 10) = true := by
      intro c hc
      have hdigit := Text.isDigit_of_mem_toDigits hc
      have := Text.toNat_of_isDigit hdigit
      rw [hexValue?_of_isDigit hdigit]
      simp only [Option.any_some, decide_eq_true_eq]
      omega
    rw [digits?, hsplit]
    simp only [List.all_cons, List.all_nil, Bool.and_true, Bool.and_eq_true, Bool.not_eq_true',
      List.isEmpty_eq_false_iff, List.all_eq_true]
    rw [if_pos ⟨Nat.toDigits_ne_nil, hall⟩]
    simp
  rw [wholeDigits?, hdigits]
  simp only [Option.bind_eq_bind, Option.bind_some]
  -- A zero in front is the whole number.
  rw [if_neg fun h => h.2 (by rw [Text.toDigits_eq_of_head? h.1]; rfl)]

theorem integer?_toDigits (n : Nat) : integer? (Nat.toDigits 10 n) = some (some (n : Int)) := by
  have hdecimal : decimalDigits? (Nat.toDigits 10 n) = some (some (n : Int)) := by
    have hall : ∀ c ∈ Nat.toDigits 10 n, c.isDigit = true :=
      fun c => Text.isDigit_of_mem_toDigits
    have hvalue : digitsValue 10 (Nat.toDigits 10 n) = n := by
      rw [digitsValue_of_isDigit hall, Nat.ofDigitChars_toDigits (by decide) (by decide)]
    rw [decimalDigits?, Text.takeWhile_of_forall hall, Text.dropWhile_of_forall hall]
    obtain ⟨d, ds, hd, -⟩ := Text.exists_toDigits_eq_cons n
    simp only [hd]
    rw [← hd, wholeDigits?_toDigits, Option.map_some, hvalue]
  obtain ⟨d, ds, hd, hdigit⟩ := Text.exists_toDigits_eq_cons n
  -- A number of more than one digit does not begin with a zero, so it names no other base.
  have hbase : d = '0' → ds = [] := by
    rintro rfl
    have := Text.toDigits_eq_of_head? (n := n) (by rw [hd]; rfl)
    simpa [hd] using this
  rw [integer?.eq_def, hd]
  split
  · simp_all
  · simp_all
  · simp_all
  · have hunsigned : unsigned (d :: ds) = (false, d :: ds) := by
      unfold unsigned
      split
      · simp_all
      · simp_all
      · rfl
    rw [hunsigned, ← hd]
    simp only [hdecimal, Option.map_some, Bool.false_eq_true, if_false]

theorem isWordChar_of_isDigit {c : Char} (h : c.isDigit = true) : isWordChar c = true :=
  Text.forall_isDigit (p := fun c => isWordChar c = true) (by decide) h

theorem word?_toDigits (n : Nat) : word? (Nat.toDigits 10 n) = some (.integer (some n)) := by
  -- No digits spell a truth value.
  have hne : ∀ w : List Char, w.any (! Char.isDigit ·) = true → Nat.toDigits 10 n ≠ w := by
    rintro w hw rfl
    obtain ⟨c, hc, hnot⟩ := List.any_eq_true.1 hw
    simp [Text.isDigit_of_mem_toDigits hc] at hnot
  rw [word?, if_neg (hne _ (by decide)), if_neg (hne _ (by decide)), integer?_toDigits]

theorem readBasic_cons {c : Char} (htext : isTextChar c = true) (hquote : c ≠ '"')
    (hslash : c ≠ '\\') (cs : List Char) : readBasic (c :: cs) = prepend c (readBasic cs) := by
  rw [readBasic.eq_def]
  split
  case h_6 heq =>
    obtain ⟨rfl, rfl⟩ := List.cons.inj heq
    rw [if_pos ⟨htext, hslash⟩]
  all_goals simp_all

/-- A string in double quotes without escapes ends at the next quote. -/
theorem readBasic_plain {cs : List Char}
    (h : ∀ c ∈ cs, isTextChar c = true ∧ c ≠ '"' ∧ c ≠ '\\') (rest : List Char) :
    readBasic (cs ++ '"' :: rest) = some (cs, rest) := by
  induction cs with
  | nil => rfl
  | cons c cs ih =>
    obtain ⟨htext, hquote, hslash⟩ := h c List.mem_cons_self
    rw [List.cons_append, readBasic_cons htext hquote hslash,
      ih fun d hd => h d (List.mem_cons_of_mem c hd)]
    rfl

/-- At the end of a line a string in three quotes cannot begin with two. -/
theorem readString_plain {cs : List Char}
    (h : ∀ c ∈ cs, isTextChar c = true ∧ c ≠ '"' ∧ c ≠ '\\') (rest : List Char) :
    readString ('"' :: (cs ++ '"' :: '\n' :: rest)) = some (cs, '\n' :: rest) := by
  have hbasic := readBasic_plain h ('\n' :: rest)
  cases cs with
  | nil => exact hbasic
  | cons c cs =>
    have hquote := (h c List.mem_cons_self).2.1
    rw [readString.eq_def]
    split
    case h_3 heq =>
      rw [← (List.cons.inj heq).2]
      exact hbasic
    all_goals simp_all

theorem takeWord_toDigits (n : Nat) (rest : List Char) :
    takeWord (Nat.toDigits 10 n ++ '\n' :: rest) = (Nat.toDigits 10 n, '\n' :: rest) := by
  have hword : ∀ c ∈ Nat.toDigits 10 n, isWordChar c = true :=
    fun c hc => isWordChar_of_isDigit (Text.isDigit_of_mem_toDigits hc)
  have hstop : ∀ c ∈ ('\n' :: rest).head?, isWordChar c = false := by
    simp only [List.head?_cons, Option.mem_some_iff]
    rintro c rfl
    decide
  rw [takeWord, Text.takeWhile_append_of_head? hword hstop,
    Text.dropWhile_append_of_head? hword hstop]
  rfl

theorem readScalar_spelling {v : PlainValue} (h : v.Faithful) (rest : List Char) :
    readScalar (v.spelling ++ '\n' :: rest) = some (v.value, '\n' :: rest) := by
  cases v with
  | number n =>
    obtain ⟨d, ds, hd, hdigit⟩ := Text.exists_toDigits_eq_cons n
    rw [PlainValue.spelling, readScalar.eq_def]
    split
    · simp_all
    · simp_all
    · rw [takeWord_toDigits]
      simp only [word?_toDigits, Option.map_some]
      rfl
  | text s =>
    simp only [PlainValue.spelling, List.cons_append, List.append_assoc, List.nil_append,
      readScalar, readString_plain h rest, Option.map_some, String.ofList_toList]
    rfl

/-- A value that opens neither a bracket nor a brace has no parts. -/
theorem readValue_of_head? {cs : List Char} (h : ∀ c ∈ cs.head?, c ≠ '[' ∧ c ≠ '\x7b')
    (fuel depth : Nat) : readValue (fuel + 1) depth cs = readScalar cs := by
  rw [readValue.eq_def]
  split
  · contradiction
  · simp only
    split
    · exact absurd rfl (h _ rfl).1
    · exact absurd rfl (h _ rfl).2
    · simp_all

/-- A value is read back, up to the end of its line. -/
theorem readValue_spelling {v : PlainValue} (h : v.Faithful) (fuel depth : Nat)
    (rest : List Char) :
    readValue (fuel + 1) depth (v.spelling ++ '\n' :: rest) = some (v.value, '\n' :: rest) := by
  rw [readValue_of_head?, readScalar_spelling h]
  cases v with
  | number n =>
    obtain ⟨d, ds, hd, hdigit⟩ := Text.exists_toDigits_eq_cons n
    simp only [PlainValue.spelling, hd, List.cons_append, List.head?_cons, Option.mem_some_iff]
    rintro c rfl
    exact ⟨Text.ne_of_isDigit hdigit (by decide), Text.ne_of_isDigit hdigit (by decide)⟩
  | text s => simp [PlainValue.spelling]

/-! ### Keys -/

/-- What may stand in a key without quotes begins nothing else. -/
theorem ne_of_isBareKeyChar {c d : Char} (hc : isBareKeyChar c = true)
    (hd : isBareKeyChar d = false) : c ≠ d := by
  rintro rfl
  exact absurd hc (Bool.eq_false_iff.1 hd)

theorem isSpace_of_isBareKeyChar {c : Char} (hc : isBareKeyChar c = true) : isSpace c = false := by
  simp [isSpace, ne_of_isBareKeyChar hc (by decide : isBareKeyChar ' ' = false),
    ne_of_isBareKeyChar hc (by decide : isBareKeyChar '\t' = false)]

theorem IsBareKey.exists_cons {key : String} (h : IsBareKey key) :
    ∃ c cs, key.toList = c :: cs ∧ isBareKeyChar c = true := by
  obtain ⟨c, cs, hcs⟩ := List.exists_cons_of_ne_nil h.1
  exact ⟨c, cs, hcs, h.2 c (hcs ▸ List.mem_cons_self)⟩

theorem readSimpleKey_bare {key : String} (h : IsBareKey key) {rest : List Char}
    (hrest : ∀ c ∈ rest.head?, isBareKeyChar c = false) :
    readSimpleKey (key.toList ++ rest) = some (key, rest) := by
  obtain ⟨d, ds, hd, hbare⟩ := h.exists_cons
  rw [readSimpleKey.eq_def]
  split
  case h_1 heq =>
    rw [hd, List.cons_append] at heq
    exact absurd (List.cons.inj heq).1 (ne_of_isBareKeyChar hbare (by decide))
  case h_2 heq =>
    rw [hd, List.cons_append] at heq
    exact absurd (List.cons.inj heq).1 (ne_of_isBareKeyChar hbare (by decide))
  case h_3 =>
    simp only [Text.takeWhile_append_of_head? h.2 hrest,
      Text.dropWhile_append_of_head? h.2 hrest, List.isEmpty_eq_false_iff.2 h.1,
      String.ofList_toList, Bool.false_eq_true, if_false]

/-- A key without quotes, without dots, and without spaces in front. -/
theorem readKey_bare {key : String} (h : IsBareKey key) {rest : List Char}
    (hrest : ∀ c ∈ rest.head?, isBareKeyChar c = false)
    (hdot : ∀ c ∈ (skipSpaces rest).head?, c ≠ '.') (fuel : Nat) :
    readKey (fuel + 1) (key.toList ++ rest) = some ([], key, skipSpaces rest) := by
  have hskip : skipSpaces (key.toList ++ rest) = key.toList ++ rest := by
    obtain ⟨d, ds, hd, hbare⟩ := h.exists_cons
    rw [hd, List.cons_append, skipSpaces,
      List.dropWhile_cons_of_neg (by simp [isSpace_of_isBareKeyChar hbare])]
  rw [readKey, hskip, readSimpleKey_bare h hrest]
  simp only
  split
  · rename_i heq
    exact absurd rfl (hdot _ (by rw [heq]; rfl))
  · rfl

/-! ### Lines -/

/-- Nothing is passed over in front of what is neither a space nor a comment. -/
theorem skipTrivia_of_head {c : Char} (hline : c ≠ '\n') (hreturn : c ≠ '\r')
    (hspace : isSpace c = false) (hcomment : c ≠ '#') (cs : List Char) :
    skipTrivia false (c :: cs) = some (c :: cs) := by
  rw [skipTrivia.eq_def]
  split
  case h_4 heq =>
    obtain ⟨rfl, rfl⟩ := List.cons.inj heq
    simp [hspace, hcomment]
  all_goals simp_all

theorem endLine?_newline (rest : List Char) : endLine? ('\n' :: rest) = some rest := rfl

variable {p : Progress} {rest : List Char}

theorem readLines_blank (fuel : Nat) :
    readLines fuel p ('\n' :: rest) = readLines fuel p rest := by
  cases fuel with
  | zero => rfl
  | succ fuel => rw [readLines, readLines, skipTrivia]

theorem readLines_header {key : String} (h : IsBareKey key) (fuel : Nat) :
    readLines (fuel + 1) p ((Line.header key).spelling ++ rest) =
      (p.open? ⟨[], key, false⟩).bind (readLines fuel · rest) := by
  have hkey : readKey maxKeyParts (key.toList ++ ']' :: '\n' :: rest) =
      some ([], key, ']' :: '\n' :: rest) :=
    readKey_bare h (by simp [isBareKeyChar]) (by simp [skipSpaces, isSpace]) _
  have hheader : readHeader (key.toList ++ ']' :: '\n' :: rest) =
      some (⟨[], key, false⟩, '\n' :: rest) := by
    obtain ⟨d, ds, hd, hbare⟩ := h.exists_cons
    rw [readHeader.eq_def]
    split
    · rename_i heq
      rw [hd, List.cons_append] at heq
      exact absurd (List.cons.inj heq).1 (ne_of_isBareKeyChar hbare (by decide))
    · simp only [hkey]
  simp only [Line.spelling, List.cons_append, List.append_assoc, List.nil_append]
  rw [readLines, skipTrivia_of_head (by decide) (by decide) (by decide) (by decide)]
  simp only [hheader, Option.bind_eq_bind, Option.bind_some, endLine?_newline]

/-- A value begins right where its spelling does. -/
theorem skipSpaces_spelling (v : PlainValue) (cs : List Char) :
    skipSpaces (' ' :: (v.spelling ++ cs)) = v.spelling ++ cs := by
  have hspace : isSpace ' ' = true := rfl
  rw [skipSpaces, List.dropWhile_cons_of_pos hspace]
  cases v with
  | number n =>
    obtain ⟨d, ds, hd, hdigit⟩ := Text.exists_toDigits_eq_cons n
    refine Text.dropWhile_of_head? ?_
    simp only [PlainValue.spelling, hd, List.cons_append, List.head?_cons, Option.mem_some_iff]
    rintro c rfl
    exact Text.forall_isDigit (p := fun c => isSpace c = false) (by decide) hdigit
  | text s => rfl

theorem readLines_assign {key : String} {v : PlainValue} (h : IsBareKey key) (hv : v.Faithful)
    (fuel : Nat) :
    readLines (fuel + 2) p ((Line.assign key v).spelling ++ rest) =
      (p.assign? [] key v.value).bind (readLines (fuel + 1) · rest) := by
  obtain ⟨tail, htail⟩ : ∃ tail, tail = v.spelling ++ '\n' :: rest := ⟨_, rfl⟩
  have hline : (Line.assign key v).spelling ++ rest = key.toList ++ ' ' :: '=' :: ' ' :: tail := by
    simp [Line.spelling, htail]
  have hkey : readKey maxKeyParts (key.toList ++ ' ' :: '=' :: ' ' :: tail) =
      some ([], key, '=' :: ' ' :: tail) :=
    readKey_bare h (by simp [isBareKeyChar]) (by simp [skipSpaces, isSpace]) _
  have hskip : skipSpaces ('=' :: ' ' :: tail) = '=' :: ' ' :: tail := rfl
  have hvalue : readValue (fuel + 1) 0 (skipSpaces (' ' :: tail)) =
      some (v.value, '\n' :: rest) := by
    rw [htail, skipSpaces_spelling, readValue_spelling hv]
  obtain ⟨d, ds, hd, hbare⟩ := h.exists_cons
  have htrivia : skipTrivia false (key.toList ++ ' ' :: '=' :: ' ' :: tail) =
      some (key.toList ++ ' ' :: '=' :: ' ' :: tail) := by
    rw [hd, List.cons_append]
    exact skipTrivia_of_head (ne_of_isBareKeyChar hbare (by decide))
      (ne_of_isBareKeyChar hbare (by decide)) (isSpace_of_isBareKeyChar hbare)
      (ne_of_isBareKeyChar hbare (by decide)) _
  rw [hline, readLines, htrivia]
  split
  case h_1 => contradiction
  case h_2 heq => simp [hd] at heq
  case h_3 heq =>
    rw [hd, List.cons_append, Option.some.injEq] at heq
    exact absurd (List.cons.inj heq).1 (ne_of_isBareKeyChar hbare (by decide))
  case h_4 heq =>
    obtain rfl := Option.some.inj heq
    simp only [hkey, hskip, hvalue, endLine?_newline, Option.bind_eq_bind, Option.bind_some]

/-! ### Documents -/

/-- Reading lines does what they say, one after the other. -/
theorem readLines_spelling {ls : List Line} (h : ∀ l ∈ ls, l.Faithful) {fuel : Nat}
    (hfuel : ls.length < fuel) (p : Progress) :
    readLines fuel p (ls.flatMap Line.spelling) = ls.foldlM Progress.line? p := by
  induction ls generalizing fuel p with
  | nil =>
    obtain ⟨fuel, rfl⟩ := Nat.exists_eq_succ_of_ne_zero (Nat.ne_of_gt hfuel)
    rfl
  | cons l ls ih =>
    have hls := fun m hm => h m (List.mem_cons_of_mem l hm)
    have hl := h l List.mem_cons_self
    obtain ⟨fuel, rfl⟩ : ∃ n, fuel = n + 2 :=
      ⟨fuel - 2, by simp only [List.length_cons] at hfuel; omega⟩
    have hshorter : ls.length < fuel + 1 := by simp only [List.length_cons] at hfuel; omega
    rw [List.flatMap_cons, List.foldlM_cons]
    cases l with
    | blank =>
      -- A blank line is passed over together with what is in front of the next one.
      rw [Line.spelling, List.singleton_append, readLines_blank, ih hls (by omega)]
      rfl
    | header key =>
      rw [readLines_header hl]
      exact congrArg _ (funext fun q => ih hls hshorter q)
    | assign key v =>
      rw [readLines_assign hl.1 hl.2]
      exact congrArg _ (funext fun q => ih hls hshorter q)

theorem Line.spelling_ne_nil (l : Line) : l.spelling ≠ [] := by
  cases l <;> simp [Line.spelling]

theorem length_le_length_flatMap_spelling (ls : List Line) :
    ls.length ≤ (ls.flatMap Line.spelling).length := by
  induction ls with
  | nil => simp
  | cons l ls ih =>
    have hpos := List.length_pos_iff.2 l.spelling_ne_nil
    simp only [List.length_cons, List.flatMap_cons, List.length_append]
    omega

/-- No line begins with the mark that may stand in front of a document. -/
theorem withoutMark_flatMap_spelling {ls : List Line} (h : ∀ l ∈ ls, l.Faithful) :
    withoutMark (ls.flatMap Line.spelling) = ls.flatMap Line.spelling := by
  cases ls with
  | nil => rfl
  | cons l ls =>
    have hl := h l List.mem_cons_self
    rw [List.flatMap_cons]
    cases l with
    | blank => rfl
    | header key => rfl
    | assign key v =>
      obtain ⟨d, ds, hd, hbare⟩ := hl.1.exists_cons
      simp only [Line.spelling, hd, List.cons_append]
      rw [withoutMark.eq_def]
      split
      case h_1 heq =>
        exact absurd (List.cons.inj heq).1 (ne_of_isBareKeyChar hbare (by decide))
      case h_2 => rfl

/-- **A document of plain lines is read as what its lines say.** -/
theorem read?_eq_foldlM (ls : List Line) {s : String} (hs : s.toList = ls.flatMap Line.spelling)
    (h : ∀ l ∈ ls, l.Faithful) :
    read? s = (ls.foldlM Progress.line? .start).bind (·.close?) := by
  have hlength : ls.length ≤ s.length := by
    rw [← String.length_toList, hs]
    exact length_le_length_flatMap_spelling ls
  rw [read?, hs, withoutMark_flatMap_spelling h, readLines_spelling h (by omega)]

end Outflow.Toml
