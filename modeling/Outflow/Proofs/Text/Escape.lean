import Outflow.Proofs.Text.Bytes

/-!
# Which octets a text stands for

Octets that are not UTF-8 are spelled out, and a spelling is text like any other.  So the text shown
for some octets tells them from others only as far as neither hold what looks like the spelling of
an octet.

## Key results

- `splitOn_escape`: spelling octets out leaves their lines as they are
- `eq_or_holdsSpelling`: two spellings are the same only for the same octets, or where one of the
  two holds a spelling itself
- `text_tells_apart`: when two texts are the same, and which octets can be told from all others
-/

namespace Outflow

namespace Bytes

/-! ### The spelling of an octet -/

theorem escapeOctet_of_lt {b : UInt8} (h : b < 128) : escapeOctet b = [Char.ofNat b.toNat] :=
  if_pos h

theorem escapeOctet_of_le {b : UInt8} (h : 128 ≤ b) :
    escapeOctet b = ['\\', 'x', hexDigit (b.toNat / 16), hexDigit (b.toNat % 16)] :=
  if_neg (UInt8.not_lt.2 h)

theorem toNat_ofNat_of_lt {b : UInt8} (h : b < 128) : (Char.ofNat b.toNat).toNat = b.toNat := by
  have hsmall : b.toNat < 128 := UInt8.lt_iff_toNat_lt.1 h
  rw [Char.ofNat, dif_pos (Or.inl (by omega))]
  rfl

/-- The digits of an octet are below 16. -/
theorem digits_lt (b : UInt8) : b.toNat / 16 < 16 ∧ b.toNat % 16 < 16 := by
  have hb := b.toNat_lt
  omega

/-- Only a newline is spelled with one. -/
theorem newline_not_mem_escapeOctet {b : UInt8} (h : b ≠ newline) : '\n' ∉ escapeOctet b := by
  have hdigit : ∀ n < 16, '\n' ≠ hexDigit n := by decide
  obtain ⟨hhigh, hlow⟩ := digits_lt b
  intro hmem
  by_cases hb : b < 128
  · rw [escapeOctet_of_lt hb, List.mem_singleton] at hmem
    have hten := congrArg Char.toNat hmem
    rw [toNat_ofNat_of_lt hb] at hten
    exact h (UInt8.toNat_inj.1 hten.symm)
  · rw [escapeOctet_of_le (UInt8.not_lt.1 hb)] at hmem
    simp [hdigit _ hhigh, hdigit _ hlow] at hmem

theorem toList_escape (bs : Bytes) : (escape bs).toList = bs.flatMap escapeOctet :=
  String.toList_ofList

/-- Spelling octets out leaves their lines as they are. -/
theorem splitOn_escape (bs : Bytes) :
    (escape bs).toList.splitOn '\n' = (bs.splitOn newline).map (String.toList ∘ escape) := by
  have hof : String.toList ∘ escape = List.flatMap escapeOctet := funext toList_escape
  rw [toList_escape, hof]
  exact splitOn_flatMap (by decide) (fun b hb => newline_not_mem_escapeOctet hb) bs

/-! ### Spellings as octets -/

/-- The octets of the spelling of one octet. -/
def spelling (b : UInt8) : Bytes := (escapeOctet b).flatMap String.utf8EncodeChar

/-- The octet of a hexadecimal digit. -/
def digitOctet (n : Nat) : UInt8 := UInt8.ofNat (hexDigit n).toNat

theorem ofText_escape (bs : Bytes) : ofText (escape bs) = bs.flatMap spelling := by
  rw [escape, ofText_ofList, List.flatMap_assoc]
  rfl

theorem spelling_of_lt {b : UInt8} (h : b < 128) : spelling b = [b] := by
  have hsmall : b.toNat < 128 := UInt8.lt_iff_toNat_lt.1 h
  rw [spelling, escapeOctet_of_lt h, List.flatMap_singleton, utf8EncodeChar_of_lt,
    toNat_ofNat_of_lt h, UInt8.ofNat_toNat]
  rwa [toNat_ofNat_of_lt h]

theorem spelling_of_le {b : UInt8} (h : 128 ≤ b) :
    spelling b = [92, 120, digitOctet (b.toNat / 16), digitOctet (b.toNat % 16)] := by
  have hdigit : ∀ n < 16, String.utf8EncodeChar (hexDigit n) = [digitOctet n] := by decide
  obtain ⟨hhigh, hlow⟩ := digits_lt b
  have hstart : String.utf8EncodeChar '\\' = [92] ∧ String.utf8EncodeChar 'x' = [120] := by decide
  simp [spelling, escapeOctet_of_le h, hdigit _ hhigh, hdigit _ hlow, hstart]

theorem spelling_ne_nil (b : UInt8) : spelling b ≠ [] := by
  by_cases hb : b < 128
  · simp [spelling_of_lt hb]
  · simp [spelling_of_le (UInt8.not_lt.1 hb)]

/-- A digit is an ASCII octet and no backslash, and tells its number. -/
theorem digitOctet_spec : ∀ n < 16, digitOctet n < 128 ∧ digitOctet n ≠ 92 ∧
    ∀ m < 16, digitOctet n = digitOctet m → n = m := by
  decide

/-- All of the octets are ASCII. -/
def IsAscii (bs : Bytes) : Prop := ∀ b ∈ bs, b < 128

/-- Somewhere in the octets there is the spelling of an octet that is not ASCII. -/
def HoldsSpelling (bs : Bytes) : Prop := ∃ b, 128 ≤ b ∧ spelling b <:+: bs

theorem isAscii_flatMap_spelling (bs : Bytes) : IsAscii (bs.flatMap spelling) := by
  intro c hc
  obtain ⟨b, -, hb⟩ := List.mem_flatMap.1 hc
  by_cases hsmall : b < 128
  · rw [spelling_of_lt hsmall, List.mem_singleton] at hb
    rwa [hb]
  · obtain ⟨hhigh, hlow⟩ := digits_lt b
    rw [spelling_of_le (UInt8.not_lt.1 hsmall)] at hb
    simp only [List.mem_cons, List.not_mem_nil, or_false] at hb
    rcases hb with rfl | rfl | rfl | rfl
    · decide
    · decide
    · exact (digitOctet_spec _ hhigh).1
    · exact (digitOctet_spec _ hlow).1

theorem flatMap_spelling_of_isAscii {bs : Bytes} (h : IsAscii bs) : bs.flatMap spelling = bs := by
  have hone : ∀ b ∈ bs, spelling b = [b] := fun b hb => spelling_of_lt (h b hb)
  rw [List.flatMap_congr hone, List.flatMap_singleton']

theorem utf8?_of_isAscii {bs : Bytes} (h : IsAscii bs) : utf8? bs = some (escape bs) := by
  rw [← utf8?_ofText, ofText_escape, flatMap_spelling_of_isAscii h]

theorem text_of_malformed {bs : Bytes} (h : utf8? bs = none) : text bs = escape bs := by
  rw [text, h, Option.getD_none]

theorem escape_eq_empty_iff (bs : Bytes) : escape bs = "" ↔ bs = [] := by
  constructor
  · intro h
    have hoctets := congrArg ofText h
    rw [ofText_escape] at hoctets
    cases bs with
    | nil => rfl
    | cons b bs => exact absurd (List.append_eq_nil_iff.1 hoctets).1 (spelling_ne_nil b)
  · rintro rfl
    rfl

/-- Only of no octets no text is shown. -/
theorem text_eq_empty_iff (bs : Bytes) : text bs = "" ↔ bs = [] := by
  constructor
  · intro h
    cases hbs : utf8? bs with
    | some t =>
      obtain rfl := eq_ofText_of_utf8? hbs
      rw [text_ofText] at h
      rw [h]
      rfl
    | none => exact (escape_eq_empty_iff bs).1 (by rwa [text_of_malformed hbs] at h)
  · rintro rfl
    rfl

/-- Octets that are not UTF-8 have one that is spelled out. -/
theorem holdsSpelling_escape {bs : Bytes} (h : utf8? bs = none) :
    HoldsSpelling (ofText (escape bs)) := by
  have hnot : ¬IsAscii bs := fun hascii => by simp [utf8?_of_isAscii hascii] at h
  obtain ⟨b, hb, hlarge⟩ : ∃ b ∈ bs, ¬b < 128 := by simpa [IsAscii] using hnot
  obtain ⟨before, after, rfl⟩ := List.append_of_mem hb
  refine ⟨b, UInt8.not_lt.1 hlarge, before.flatMap spelling, after.flatMap spelling, ?_⟩
  rw [ofText_escape]
  simp

/-! ### Reading a spelling -/

theorem spelling_inj {b c : UInt8} (hb : 128 ≤ b) (hc : 128 ≤ c)
    (h : spelling b = spelling c) : b = c := by
  obtain ⟨hbhigh, hblow⟩ := digits_lt b
  obtain ⟨hchigh, hclow⟩ := digits_lt c
  rw [spelling_of_le hb, spelling_of_le hc] at h
  simp only [List.cons.injEq, true_and, and_true] at h
  have hhigh := (digitOctet_spec _ hbhigh).2.2 _ hchigh h.1
  have hlow := (digitOctet_spec _ hblow).2.2 _ hclow h.2
  rw [← UInt8.toNat_inj]
  omega

/-- An octet that is no backslash stands for itself where it begins a spelling. -/
theorem eq_cons_of_flatMap_spelling {bs rest : Bytes} {c : UInt8} (hc : c ≠ 92)
    (h : bs.flatMap spelling = c :: rest) :
    ∃ more, bs = c :: more ∧ more.flatMap spelling = rest := by
  cases bs with
  | nil => simp at h
  | cons b more =>
    by_cases hb : b < 128
    · rw [List.flatMap_cons, spelling_of_lt hb, List.singleton_append, List.cons.injEq] at h
      obtain ⟨rfl, hrest⟩ := h
      exact ⟨more, rfl, hrest⟩
    · rw [List.flatMap_cons, spelling_of_le (UInt8.not_lt.1 hb), List.cons_append,
        List.cons.injEq] at h
      exact absurd h.1.symm hc

/-- Where a backslash stands for itself and not for the octet whose spelling it begins, so do the
    other octets of that spelling. -/
theorem holdsSpelling_of_flatMap_spelling {b c : UInt8} {bs cs : Bytes} (hb : b < 128)
    (hc : 128 ≤ c) (h : (b :: bs).flatMap spelling = (c :: cs).flatMap spelling) :
    HoldsSpelling (b :: bs) := by
  obtain ⟨hhigh, hlow⟩ := digits_lt c
  have hspelling := spelling_of_le hc
  rw [List.flatMap_cons, List.flatMap_cons, spelling_of_lt hb, hspelling] at h
  simp only [List.cons_append, List.nil_append, List.cons.injEq] at h
  obtain ⟨rfl, hletter⟩ := h
  obtain ⟨afterLetter, rfl, hfirst⟩ := eq_cons_of_flatMap_spelling (by decide) hletter
  obtain ⟨afterFirst, rfl, hsecond⟩ :=
    eq_cons_of_flatMap_spelling (digitOctet_spec _ hhigh).2.1 hfirst
  obtain ⟨rest, rfl, -⟩ := eq_cons_of_flatMap_spelling (digitOctet_spec _ hlow).2.1 hsecond
  exact ⟨c, hc, [], rest, by rw [hspelling]; rfl⟩

theorem HoldsSpelling.cons {bs : Bytes} (h : HoldsSpelling bs) (b : UInt8) :
    HoldsSpelling (b :: bs) := by
  obtain ⟨c, hc, hinfix⟩ := h
  exact ⟨c, hc, List.infix_cons hinfix⟩

/-- **Two spellings are the same only for the same octets, or where one of the two holds a
    spelling itself.** -/
theorem eq_or_holdsSpelling {bs cs : Bytes} (h : bs.flatMap spelling = cs.flatMap spelling) :
    bs = cs ∨ HoldsSpelling bs ∨ HoldsSpelling cs := by
  induction bs generalizing cs with
  | nil =>
    cases cs with
    | nil => exact .inl rfl
    | cons c cs => simp [spelling_ne_nil] at h
  | cons b bs ih =>
    cases cs with
    | nil => simp [spelling_ne_nil] at h
    | cons c cs =>
      -- With the same octet in front it is left to the rest.
      have hsame : b = c → bs.flatMap spelling = cs.flatMap spelling →
          b :: bs = c :: cs ∨ HoldsSpelling (b :: bs) ∨ HoldsSpelling (c :: cs) := by
        rintro rfl hrest
        rcases ih hrest with rfl | hbs | hcs
        · exact .inl rfl
        · exact .inr (.inl (hbs.cons b))
        · exact .inr (.inr (hcs.cons b))
      -- Two octets that are spelled out have spellings of the same length, so that only a spelled
      -- one against a plain one can be misread.
      by_cases hb : b < 128 <;> by_cases hc : c < 128
      · simp only [List.flatMap_cons, spelling_of_lt hb, spelling_of_lt hc, List.singleton_append,
          List.cons.injEq] at h
        exact hsame h.1 h.2
      · exact .inr (.inl (holdsSpelling_of_flatMap_spelling hb (UInt8.not_lt.1 hc) h))
      · exact .inr (.inr (holdsSpelling_of_flatMap_spelling hc (UInt8.not_lt.1 hb) h.symm))
      · have hlength : (spelling b).length = (spelling c).length := by
          rw [spelling_of_le (UInt8.not_lt.1 hb), spelling_of_le (UInt8.not_lt.1 hc)]
          rfl
        obtain ⟨hspelling, hrest⟩ := List.append_inj h hlength
        exact hsame (spelling_inj (UInt8.not_lt.1 hb) (UInt8.not_lt.1 hc) hspelling) hrest

/-! ### A single octet that is not ASCII -/

/-- A character is ASCII, or more than one of its octets are not. -/
theorem countP_utf8EncodeChar (c : Char) :
    (String.utf8EncodeChar c).countP (128 ≤ ·) = 0 ∨
      2 ≤ (String.utf8EncodeChar c).countP (128 ≤ ·) := by
  by_cases hc : c.toNat < 128
  · have hsmall : ¬128 ≤ UInt8.ofNat c.toNat := by
      rw [UInt8.not_le, UInt8.lt_iff_toNat_lt, UInt8.toNat_ofNat', Nat.mod_eq_of_lt (by omega)]
      exact hc
    simp [utf8EncodeChar_of_lt hc, hsmall]
  · -- None of its octets is ASCII then, so all that matters is that it has more than one.
    have hall : (String.utf8EncodeChar c).countP (128 ≤ ·) = (String.utf8EncodeChar c).length :=
      List.countP_eq_length.2 fun b hb =>
        decide_eq_true (le_of_mem_utf8EncodeChar (Nat.le_of_not_lt hc) hb)
    have hone : c.utf8Size ≠ 1 := fun h =>
      hc (Nat.lt_succ_of_le (UInt32.le_iff_toNat_le.1 (Char.utf8Size_eq_one_iff.1 h)))
    have hpos := c.utf8Size_pos
    rw [hall, String.length_utf8EncodeChar]
    omega

theorem countP_ofText_ne_one (t : String) : (ofText t).countP (128 ≤ ·) ≠ 1 := by
  rw [ofText_eq_flatMap]
  induction t.toList with
  | nil => simp
  | cons c cs ih =>
    rw [List.flatMap_cons, List.countP_append]
    have hc := countP_utf8EncodeChar c
    omega

/-- One octet that is not ASCII, among octets that are, is not UTF-8. -/
theorem utf8?_of_single {before after : Bytes} {b : UInt8} (hb : 128 ≤ b) (hbefore : IsAscii before)
    (hafter : IsAscii after) : utf8? (before ++ b :: after) = none := by
  cases h : utf8? (before ++ b :: after) with
  | none => rfl
  | some t =>
    have hone : (before ++ b :: after).countP (128 ≤ ·) = 1 := by
      have hnone : ∀ bs : Bytes, IsAscii bs → bs.countP (128 ≤ ·) = 0 := fun bs hbs =>
        List.countP_eq_zero.2 fun b hb => by simpa using hbs b hb
      simp [hnone _ hbefore, hnone _ hafter, hb]
    rw [eq_ofText_of_utf8? h] at hone
    exact absurd hone (countP_ofText_ne_one t)

/-! ### Telling octets apart -/

/-- Octets with the same text are the same, unless one of them holds a spelling where the other
    is spelled out. -/
theorem eq_or_holdsSpelling_of_text {bs cs : Bytes} (h : text bs = text cs) :
    bs = cs ∨ (HoldsSpelling bs ∧ utf8? cs = none) ∨ (HoldsSpelling cs ∧ utf8? bs = none) := by
  cases hbs : utf8? bs with
  | some s =>
    obtain rfl := eq_ofText_of_utf8? hbs
    rw [text_ofText] at h
    cases hcs : utf8? cs with
    | some t =>
      obtain rfl := eq_ofText_of_utf8? hcs
      rw [text_ofText] at h
      exact .inl (congrArg ofText h)
    | none =>
      rw [h, text_of_malformed hcs]
      exact .inr (.inl ⟨holdsSpelling_escape hcs, rfl⟩)
  | none =>
    rw [text_of_malformed hbs] at h
    cases hcs : utf8? cs with
    | some t =>
      obtain rfl := eq_ofText_of_utf8? hcs
      rw [text_ofText] at h
      rw [← h]
      exact .inr (.inr ⟨holdsSpelling_escape hbs, rfl⟩)
    | none =>
      rw [text_of_malformed hcs] at h
      have hspelling := congrArg ofText h
      rw [ofText_escape, ofText_escape] at hspelling
      rcases eq_or_holdsSpelling hspelling with heq | hheld | hheld
      · exact .inl heq
      · exact .inr (.inl ⟨hheld, rfl⟩)
      · exact .inr (.inr ⟨hheld, rfl⟩)

/-- Octets can be told from all others exactly if they are UTF-8, but not ASCII with a spelling in
    it. -/
theorem forall_eq_of_text_iff (bs : Bytes) :
    (∀ cs, text cs = text bs → cs = bs) ↔
      (utf8? bs).isSome ∧ ¬(IsAscii bs ∧ HoldsSpelling bs) := by
  constructor
  · intro hall
    refine ⟨?_, ?_⟩
    · -- The octets of the text shown have that text too.
      rw [← hall (ofText (text bs)) (text_ofText _), utf8?_ofText]
      rfl
    · rintro ⟨hascii, b, hb, before, after, rfl⟩
      have hbefore : IsAscii before := fun c hc => hascii c (by simp [hc])
      have hafter : IsAscii after := fun c hc => hascii c (by simp [hc])
      -- The octet that the spelling is of, in its place.
      have hsame : text (before ++ b :: after) = text (before ++ spelling b ++ after) := by
        have hoctets : ofText (escape (before ++ b :: after)) = before ++ spelling b ++ after := by
          rw [ofText_escape, List.flatMap_append, List.flatMap_cons,
            flatMap_spelling_of_isAscii hbefore, flatMap_spelling_of_isAscii hafter,
            List.append_assoc]
        rw [text_of_malformed (utf8?_of_single hb hbefore hafter), ← hoctets, text_ofText]
      have hlength := congrArg List.length (hall _ hsame)
      simp [spelling_of_le hb] at hlength
  · rintro ⟨hutf8, hnot⟩ cs htext
    rcases eq_or_holdsSpelling_of_text htext with rfl | ⟨-, hbs⟩ | ⟨hheld, hcs⟩
    · rfl
    · simp [hbs] at hutf8
    · obtain ⟨t, ht⟩ := Option.isSome_iff_exists.1 hutf8
      obtain rfl := eq_ofText_of_utf8? ht
      rw [text_of_malformed hcs, text_ofText] at htext
      refine absurd ⟨?_, hheld⟩ hnot
      rw [← htext, ofText_escape]
      exact isAscii_flatMap_spelling cs

/-- **The text shown for some octets tells them from all others exactly if they are UTF-8, but not
    ASCII with a spelling in it.**  Where two texts are the same, one of them looks like a spelling
    to which the other owes its own. -/
theorem text_tells_apart (bs : Bytes) :
    ((∀ cs, text cs = text bs → cs = bs) ↔
      (utf8? bs).isSome ∧ ¬(IsAscii bs ∧ HoldsSpelling bs)) ∧
    ∀ cs, text bs = text cs → bs ≠ cs →
      (HoldsSpelling bs ∧ utf8? cs = none) ∨ (HoldsSpelling cs ∧ utf8? bs = none) := by
  refine ⟨forall_eq_of_text_iff bs, fun cs htext hne => ?_⟩
  rcases eq_or_holdsSpelling_of_text htext with heq | hspelled
  · exact absurd heq hne
  · exact hspelled

/-- Two octets that are both spelled out, and one of them with the spelling of the other. -/
theorem text_tells_apart_spelled :
    let twice : Bytes := [255, 255]
    let once : Bytes := [255, 92, 120, 102, 102]
    text twice = text once ∧ twice ≠ once ∧ HoldsSpelling once ∧ utf8? twice = none := by
  intro twice once
  have htext : text twice = text once := by decide
  have hne : twice ≠ once := by decide
  refine ⟨htext, hne, ?_⟩
  rcases (text_tells_apart twice).2 once htext hne with ⟨⟨b, hb, hinfix⟩, -⟩ | hspelled
  · -- Two octets are too few for a spelling.
    have hlength := hinfix.length_le
    simp [spelling_of_le hb, twice] at hlength
  · exact hspelled

/-- An octet that is spelled out has the text of its spelling. -/
theorem text_hides_spelling :
    text [255] = "\\xff" ∧ text [92, 120, 102, 102] = "\\xff" ∧
      ([255] : Bytes) ≠ [92, 120, 102, 102] := by
  decide

end Bytes

end Outflow
