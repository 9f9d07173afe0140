import Outflow.Proofs.Json.Grammar
import Outflow.Proofs.Text.Decimal

/-!
# The reader of JSON reads every document

Each part of the reader takes off the front of a text what the grammar spells there and leaves
the rest.  What a number leaves must not look like more of the number (`Ends`); what comes after
a value in a document never does.  The fuel of the reader is its only bound, and one more than
the length of a text is enough for it.

## Key results

- `readChars_spells`, `readNumber_spells`: the leaves
- `readValue_spells`: every spelling of a value is read as that value
- `read?_eq_some`: so is every document, and no document spells two values
-/

namespace Outflow

namespace Json

/-! ### Blanks -/

theorem skip_append {b : List Char} (hb : IsBlank b) (cs : List Char) :
    skip (b ++ cs) = skip cs := List.dropWhile_append_of_pos hb

theorem skip_cons {c : Char} (hc : isSpace c = false) (cs : List Char) :
    skip (c :: cs) = c :: cs := List.dropWhile_cons_of_neg (by simp [hc])

theorem skip_skip (cs : List Char) : skip (skip cs) = skip cs := by
  refine Text.dropWhile_of_head? fun c hc => ?_
  have hhead := List.head?_dropWhile_not isSpace cs
  rwa [show (cs.dropWhile isSpace).head? = some c from hc] at hhead

/-! ### Strings -/

theorem shortEscape?_of_mem {e c : Char} (h : (e, c) ∈ shortEscapes) :
    e ≠ 'u' ∧ shortEscape? e = some c := by
  simp only [shortEscapes, List.mem_cons, Prod.mk.injEq, List.not_mem_nil, or_false] at h
  obtain ⟨rfl, rfl⟩ | ⟨rfl, rfl⟩ | ⟨rfl, rfl⟩ | ⟨rfl, rfl⟩ | ⟨rfl, rfl⟩ | ⟨rfl, rfl⟩ |
    ⟨rfl, rfl⟩ | ⟨rfl, rfl⟩ := h <;> exact ⟨by decide, rfl⟩

theorem scalar?_of_isValidChar {n : Nat} (h : n.isValidChar) :
    scalar? n = some (Char.ofNat n) := if_pos h

/-- Half of a surrogate pair is no character. -/
theorem scalar?_high {n : Nat} (h : 0xD800 ≤ n ∧ n < 0xDC00) : scalar? n = none := by
  refine if_neg fun hvalid => ?_
  obtain hlow | hhigh := hvalid <;> omega

theorem surrogates?_eq {high low : Nat} (h : 0xD800 ≤ high ∧ high < 0xDC00)
    (h' : 0xDC00 ≤ low ∧ low < 0xE000) : surrogates? high low =
      some (Char.ofNat (0x10000 + (high - 0xD800) * 0x400 + (low - 0xDC00))) := by
  rw [surrogates?, if_pos (by omega), scalar?_of_isValidChar (.inr (by omega))]

theorem readChars_char {cs : List Char} {c : Char} (h : SpellsChar cs c) (rest : List Char) :
    readChars (cs ++ rest) = (readChars rest).map fun (text, after) => (c :: text, after) := by
  cases h with
  | plain hcontrol hquote hbackslash =>
    rw [List.singleton_append, readChars.eq_6 _ _ hquote (fun _ _ _ _ _ h => absurd h hbackslash)
      (fun _ _ h => absurd h hbackslash), if_neg (by simp [hbackslash]; omega)]
  | short h =>
    obtain ⟨hu, hshort⟩ := shortEscape?_of_mem h
    rw [List.cons_append, List.singleton_append, readChars.eq_5 _ _ fun _ _ _ _ _ h => absurd h hu]
    simp only [hshort]
  | unit h hvalid =>
    simp only [List.cons_append, List.nil_append]
    rw [readChars.eq_def]
    simp only [h, Option.bind_some, scalar?_of_isValidChar hvalid]
  | pair hhigh hlow h h' =>
    simp only [List.cons_append, List.nil_append]
    rw [readChars.eq_3, hhigh, hlow]
    simp only [Option.bind_some, scalar?_high h, surrogates?_eq h h']

theorem readChars_spells {cs text : List Char} (h : SpellsChars cs text) (rest : List Char) :
    readChars (cs ++ '"' :: rest) = some (text, rest) := by
  induction h with
  | nil => rw [List.nil_append, readChars.eq_2]
  | cons h hs ih => rw [List.append_assoc, readChars_char h, ih, Option.map_some]

/-! ### Numbers -/

/-- The characters that a number can go on with. -/
def isNumeral (c : Char) : Bool := c.isDigit || c = '.' || c = 'e' || c = 'E'

/-- A number ends where these characters begin. -/
def Ends (rest : List Char) : Prop := ∀ c ∈ rest.head?, isNumeral c = false

theorem ends_nil : Ends [] := nofun

theorem ends_cons {c : Char} (hc : isNumeral c = false) (cs : List Char) : Ends (c :: cs) := by
  intro d hd
  obtain rfl : c = d := Option.some.inj hd
  exact hc

theorem Ends.isDigit_eq_false {rest : List Char} (h : Ends rest) :
    ∀ c ∈ rest.head?, c.isDigit = false := by
  intro c hc
  have hc := h c hc
  simp only [isNumeral, Bool.or_eq_false_iff] at hc
  exact hc.1.1.1

theorem digitsValue_eq (cs : List Char) : digitsValue cs = digitsNat cs := by
  simp only [digitsValue, digitsNat, Nat.ofDigitChars, Nat.mul_comm]
  rfl

theorem digitsNat_append (ds places : List Char) :
    digitsNat (ds ++ places) = digitsNat ds * Nat.pow 10 places.length + digitsNat places := by
  rw [digitsNat, Nat.ofDigitChars_append, Nat.ofDigitChars_eq_ofDigitChars_zero, Nat.mul_comm]
  rfl

theorem unsigned_append {ds rest : List Char} (hds : IsDigits ds)
    (hrest : ∀ c ∈ rest.head?, c.isDigit = false) (sign : Int) :
    readSigned.unsigned sign (ds ++ rest) = some (sign * digitsNat ds, rest) := by
  rw [readSigned.unsigned, Text.takeWhile_append_of_head? hds.2 hrest,
    Text.dropWhile_append_of_head? hds.2 hrest, digitsValue_eq]
  exact if_neg (by simp [hds.1])

theorem readSigned_spells {ss ds rest : List Char} {sign : Int} (h : SpellsSign ss sign)
    (hds : IsDigits ds) (hrest : ∀ c ∈ rest.head?, c.isDigit = false) :
    readSigned (ss ++ ds ++ rest) = some (sign * digitsNat ds, rest) := by
  have hunsigned := unsigned_append hds hrest
  cases h with
  | none =>
    rw [List.nil_append, readSigned.eq_3, hunsigned]
    all_goals
      intro cs hcs
      obtain ⟨hne, hdigits⟩ := hds
      cases ds with
      | nil => contradiction
      | cons d ds =>
        obtain rfl := (List.cons.inj hcs).1
        exact absurd (hdigits _ List.mem_cons_self) (by decide)
  | plus => exact hunsigned 1
  | minus => exact hunsigned (-1)

theorem readExponent_spells {es rest : List Char} {exponent : Int}
    (h : SpellsExponent es exponent) (hrest : Ends rest) :
    readExponent (es ++ rest) = some (exponent, rest) := by
  cases h with
  | none =>
    rw [List.nil_append, readExponent.eq_3]
    all_goals
      rintro cs rfl
      exact absurd (hrest _ rfl) (by decide)
  | marked he hsign hdigits =>
    have hsigned := readSigned_spells hsign hdigits hrest.isDigit_eq_false
    obtain rfl | rfl := he <;> exact hsigned

theorem readPlaces_spells {ps places rest : List Char} (h : SpellsPlaces ps places)
    (hrest : ∀ c ∈ rest.head?, c.isDigit = false ∧ c ≠ '.') (n : Nat) :
    readFraction n (ps ++ rest) =
      some (n * Nat.pow 10 places.length + digitsNat places, places.length, rest) := by
  cases h with
  | none =>
    rw [List.nil_append, readFraction.eq_2]
    · simp [digitsNat]
    · rintro cs rfl
      exact absurd rfl (hrest _ rfl).2
  | point h =>
    have hdigit := fun c hc => (hrest c hc).1
    rw [List.cons_append, readFraction.eq_1, Text.takeWhile_append_of_head? h.2 hdigit,
      Text.dropWhile_append_of_head? h.2 hdigit, digitsValue_eq]
    exact if_neg (by simp [h.1])

/-- Neither an exponent nor the end of a number looks like more places. -/
theorem SpellsExponent.head? {es rest : List Char} {exponent : Int}
    (h : SpellsExponent es exponent) (hrest : Ends rest) :
    ∀ c ∈ (es ++ rest).head?, c.isDigit = false ∧ c ≠ '.' := by
  intro c hc
  cases h with
  | none =>
    refine ⟨hrest.isDigit_eq_false c hc, ?_⟩
    rintro rfl
    exact absurd (hrest _ hc) (by decide)
  | marked he =>
    obtain rfl := Option.some.inj hc
    obtain rfl | rfl := he <;> decide

/-- Nor do the places look like more digits. -/
theorem SpellsPlaces.head? {ps places rest : List Char} (h : SpellsPlaces ps places)
    (hrest : ∀ c ∈ rest.head?, c.isDigit = false ∧ c ≠ '.') :
    ∀ c ∈ (ps ++ rest).head?, c.isDigit = false := by
  intro c hc
  cases h with
  | none => exact (hrest c hc).1
  | point =>
    obtain rfl := Option.some.inj hc
    decide

theorem readMagnitude_spells {cs rest : List Char} {n : Nat} {exponent : Int}
    (h : SpellsMagnitude cs n exponent) (hrest : Ends rest) (sign : Int) :
    readMagnitude sign (cs ++ rest) = some (.number (sign * n) exponent, rest) := by
  obtain ⟨hdigits, hzero, hplaces, hexponent⟩ := h
  rename_i ds ps places es exponent
  have hhead := hplaces.head? (hexponent.head? hrest)
  have hlength : (ds.isEmpty || (ds.head? == some '0' && ds.length != 1)) = false := by
    have hone : ds.head? = some '0' → ds.length = 1 := fun h => by rw [hzero h]; rfl
    simpa [hdigits.1] using hone
  rw [List.append_assoc, List.append_assoc, readMagnitude,
    Text.takeWhile_append_of_head? hdigits.2 hhead,
    Text.dropWhile_append_of_head? hdigits.2 hhead]
  simp only [hlength, Bool.false_eq_true, if_false, digitsValue_eq,
    readPlaces_spells hplaces (hexponent.head? hrest), readExponent_spells hexponent hrest,
    digitsNat_append, Option.bind_eq_bind, Option.bind_some]

theorem SpellsMagnitude.exists_cons {cs : List Char} {n : Nat} {exponent : Int}
    (h : SpellsMagnitude cs n exponent) : ∃ c tail, cs = c :: tail ∧ c.isDigit = true := by
  obtain ⟨⟨hne, hdigits⟩, -, -, -⟩ := h
  obtain ⟨d, ds, rfl⟩ := List.exists_cons_of_ne_nil hne
  exact ⟨d, _, rfl, hdigits d List.mem_cons_self⟩

theorem readNumber_spells {cs rest : List Char} {n exponent : Int}
    (h : SpellsNumber cs n exponent) (hrest : Ends rest) :
    readNumber (cs ++ rest) = some (.number n exponent, rest) := by
  cases h with
  | positive h =>
    rw [readNumber.eq_2, readMagnitude_spells h hrest, Int.one_mul]
    obtain ⟨c, tail, rfl, hc⟩ := h.exists_cons
    intro cs hcs
    obtain rfl := (List.cons.inj hcs).1
    exact absurd hc (by decide)
  | negative h =>
    rw [List.cons_append, readNumber.eq_1, readMagnitude_spells h hrest, Int.neg_mul, Int.one_mul]

/-- A number begins with a digit or its sign. -/
theorem SpellsNumber.exists_cons {cs : List Char} {n exponent : Int}
    (h : SpellsNumber cs n exponent) :
    ∃ c tail, cs = c :: tail ∧ (c.isDigit = true ∨ c = '-') := by
  cases h with
  | positive h =>
    obtain ⟨c, tail, hcs, hc⟩ := h.exists_cons
    exact ⟨c, tail, hcs, .inl hc⟩
  | negative h => exact ⟨'-', _, rfl, .inr rfl⟩

/-! ### Values -/

/-- A value begins with a character that is neither a blank nor the end of an array. -/
theorem SpellsValue.exists_cons {cs : List Char} {v : Json} (h : SpellsValue cs v) :
    ∃ c tail, cs = c :: tail ∧ isSpace c = false ∧ c ≠ ']' := by
  cases h with
  | nullWord => exact ⟨'n', _, rfl, by decide⟩
  | trueWord => exact ⟨'t', _, rfl, by decide⟩
  | falseWord => exact ⟨'f', _, rfl, by decide⟩
  | number h =>
    obtain ⟨c, tail, hcs, hdigit | rfl⟩ := h.exists_cons
    · exact ⟨c, tail, hcs, Text.forall_isDigit (p := fun c => isSpace c = false ∧ c ≠ ']')
        (by decide) hdigit⟩
    · exact ⟨'-', tail, hcs, by decide⟩
  | string h =>
    obtain ⟨-⟩ := h
    exact ⟨'"', _, rfl, by decide⟩
  | noElements => exact ⟨'[', _, rfl, by decide⟩
  | array => exact ⟨'[', _, rfl, by decide⟩
  | noMembers => exact ⟨'\x7b', _, rfl, by decide⟩
  | object => exact ⟨'\x7b', _, rfl, by decide⟩

/-- Blanks in front of a value make no difference. -/
theorem readValue_skip (fuel : Nat) (cs : List Char) :
    readValue fuel (skip cs) = readValue fuel cs := by
  cases fuel with
  | zero => rfl
  | succ fuel => rw [readValue, readValue, skip_skip]

theorem readElement_skip (fuel : Nat) (cs : List Char) :
    readElement fuel (skip cs) = readElement fuel cs := by
  cases fuel with
  | zero => rfl
  | succ fuel => rw [readElement, readElement, readValue_skip]

theorem readMember_skip (fuel : Nat) (cs : List Char) :
    readMember fuel (skip cs) = readMember fuel cs := by
  cases fuel with
  | zero => rfl
  | succ fuel => rw [readMember, readMember, skip_skip]

theorem readValue_number {cs rest : List Char} {n exponent : Int}
    (h : SpellsNumber cs n exponent) (hrest : Ends rest) (fuel : Nat) :
    readValue (fuel + 1) (cs ++ rest) = some (.number n exponent, rest) := by
  rw [← readNumber_spells h hrest]
  obtain ⟨c, tail, rfl, hc⟩ := h.exists_cons
  have hspace : isSpace c = false := by
    obtain hdigit | rfl := hc
    · exact Text.forall_isDigit (p := fun c => isSpace c = false) (by decide) hdigit
    · decide
  rw [List.cons_append, readValue, skip_cons hspace]
  split
  -- A number begins like no other value.
  case h_7 => rfl
  all_goals
    rename_i heq
    obtain rfl := (List.cons.inj heq).1
    exact absurd hc (by decide)

theorem readValue_string {cs : List Char} {s : String} (h : SpellsString cs s)
    (fuel : Nat) (rest : List Char) :
    readValue (fuel + 1) (cs ++ rest) = some (.string s, rest) := by
  obtain ⟨h⟩ := h
  rw [List.cons_append, List.cons_append, List.append_assoc, readValue, skip_cons (by decide)]
  simp only [List.singleton_append, readChars_spells h, Option.map_some]

/-- An array goes on with its elements unless it ends. -/
theorem readValue_array {cs after : List Char} (hcs : ∀ c ∈ (skip cs).head?, c ≠ ']')
    {vs : List Json} {fuel : Nat} (h : readElement fuel cs = some (vs, after)) :
    readValue (fuel + 1) ('[' :: cs) = some (.array vs, after) := by
  rw [readValue, skip_cons (by decide)]
  simp only []
  split
  · rename_i heq
    exact absurd rfl (hcs _ (by rw [heq]; rfl))
  · rw [readElement_skip, h]

theorem readValue_object {cs after : List Char} (hcs : ∀ c ∈ (skip cs).head?, c ≠ '\x7d')
    {ms : List (String × Json)} {fuel : Nat} (h : readMember fuel cs = some (ms, after)) :
    readValue (fuel + 1) ('\x7b' :: cs) = some (.object ms, after) := by
  rw [readValue, skip_cons (by decide)]
  simp only []
  split
  · rename_i heq
    exact absurd rfl (hcs _ (by rw [heq]; rfl))
  · rw [readMember_skip, h]

theorem Ends.append {b rest : List Char} (hb : IsBlank b) (h : Ends rest) : Ends (b ++ rest) := by
  cases b with
  | nil => exact h
  | cons c b =>
    refine ends_cons ?_ _
    have hspace := hb c List.mem_cons_self
    simp only [isSpace, Bool.or_eq_true, decide_eq_true_eq] at hspace
    obtain ((rfl | rfl) | rfl) | rfl := hspace <;> decide

theorem SpellsElement.head?_skip {cs : List Char} {v : Json} (h : SpellsElement cs v)
    (rest : List Char) : ∀ c ∈ (skip (cs ++ rest)).head?, c ≠ ']' := by
  obtain ⟨hb, h, -⟩ := h
  obtain ⟨c, tail, rfl, hspace, hc⟩ := h.exists_cons
  intro d hd
  rw [List.append_assoc, List.append_assoc, skip_append hb, List.cons_append,
    skip_cons hspace] at hd
  exact Option.some.inj hd ▸ hc

theorem SpellsElements.head?_skip {cs : List Char} {vs : List Json} (h : SpellsElements cs vs)
    (rest : List Char) : ∀ c ∈ (skip (cs ++ rest)).head?, c ≠ ']' := by
  cases h with
  | one h => exact h.head?_skip rest
  | cons h hs =>
    rw [List.append_assoc]
    exact h.head?_skip _

theorem SpellsMember.head?_skip {cs : List Char} {m : String × Json} (h : SpellsMember cs m)
    (rest : List Char) : ∀ c ∈ (skip (cs ++ rest)).head?, c ≠ '\x7d' := by
  obtain ⟨hb, ⟨-⟩, -, -⟩ := h
  intro d hd
  simp only [List.append_assoc, skip_append hb, List.cons_append,
    skip_cons (c := '"') (by decide)] at hd
  exact Option.some.inj hd ▸ by decide

theorem SpellsMembers.head?_skip {cs : List Char} {ms : List (String × Json)}
    (h : SpellsMembers cs ms) (rest : List Char) :
    ∀ c ∈ (skip (cs ++ rest)).head?, c ≠ '\x7d' := by
  cases h with
  | one h => exact h.head?_skip rest
  | cons h hs =>
    rw [List.append_assoc]
    exact h.head?_skip _

/-- What a reader of members gives after it has read one. -/
def afterMember (fuel : Nat) (m : String × Json) (cs : List Char) :
    Option (List (String × Json) × List Char) :=
  match skip cs with
  | '\x7d' :: rest => some ([m], rest)
  | ',' :: rest => (readMember fuel rest).map fun (ms, rest) => (m :: ms, rest)
  | _ => none

-- By induction on how the text is spelled.  A value needs more fuel than it has characters, and
-- a row of elements or members one more than that, which it spends before it reads a value.
mutual

theorem readValue_spells {cs : List Char} {v : Json} (h : SpellsValue cs v) (fuel : Nat)
    (hfuel : cs.length < fuel) {rest : List Char} (hrest : Ends rest) :
    readValue fuel (cs ++ rest) = some (v, rest) := by
  obtain ⟨fuel, rfl⟩ : ∃ n, fuel = n + 1 := ⟨fuel - 1, by omega⟩
  match h with
  | .nullWord => rfl
  | .trueWord => rfl
  | .falseWord => rfl
  | .number h => exact readValue_number h hrest fuel
  | .string h => exact readValue_string h fuel rest
  | .noElements hb =>
    simp only [List.cons_append, List.append_assoc, readValue, skip_cons (c := '[') (by decide),
      skip_append hb, List.nil_append, skip_cons (c := ']') (by decide)]
  | .noMembers hb =>
    simp only [List.cons_append, List.append_assoc, readValue,
      skip_cons (c := '\x7b') (by decide), skip_append hb, List.nil_append,
      skip_cons (c := '\x7d') (by decide)]
  | .array hs =>
    simp only [List.cons_append, List.length_cons, List.length_append, List.append_assoc,
      List.nil_append, List.length_nil] at hfuel ⊢
    exact readValue_array (hs.head?_skip _) (readElement_spells hs _ (by omega) rest)
  | .object hs =>
    simp only [List.cons_append, List.length_cons, List.length_append, List.append_assoc,
      List.nil_append, List.length_nil] at hfuel ⊢
    exact readValue_object (hs.head?_skip _) (readMember_spells hs _ (by omega) rest)

/-- The blanks after an element are left. -/
theorem readValue_element {cs : List Char} {v : Json} (h : SpellsElement cs v) (fuel : Nat)
    (hfuel : cs.length < fuel) {rest : List Char} (hrest : Ends rest) :
    ∃ after, readValue fuel (cs ++ rest) = some (v, after) ∧ skip after = skip rest := by
  match h with
  | @SpellsElement.padded b cs b' _ hb h hb' =>
    refine ⟨b' ++ rest, ?_, skip_append hb' rest⟩
    simp only [List.length_append] at hfuel
    rw [← readValue_skip, List.append_assoc, List.append_assoc, skip_append hb, readValue_skip]
    exact readValue_spells h _ (by omega) (hrest.append hb')

theorem readElement_spells {cs : List Char} {vs : List Json} (h : SpellsElements cs vs)
    (fuel : Nat) (hfuel : cs.length + 1 < fuel) (rest : List Char) :
    readElement fuel (cs ++ ']' :: rest) = some (vs, rest) := by
  obtain ⟨fuel, rfl⟩ : ∃ n, fuel = n + 1 := ⟨fuel - 1, by omega⟩
  match h with
  | .one h =>
    obtain ⟨after, hread, hafter⟩ :=
      readValue_element h fuel (by omega) (ends_cons (c := ']') (by decide) rest)
    simp only [readElement, hread, hafter, skip_cons (c := ']') (by decide)]
  | @SpellsElements.cons _ ds _ _ h hs =>
    simp only [List.length_append, List.length_cons] at hfuel
    obtain ⟨after, hread, hafter⟩ := readValue_element h fuel (by omega)
      (ends_cons (c := ',') (by decide) (ds ++ ']' :: rest))
    simp only [List.append_assoc, List.cons_append, readElement, hread, hafter,
      skip_cons (c := ',') (by decide), readElement_spells hs fuel (by omega) rest,
      Option.map_some]

theorem readMember_member {cs : List Char} {m : String × Json} (h : SpellsMember cs m)
    (fuel : Nat) (hfuel : cs.length < fuel) {rest : List Char} (hrest : Ends rest) :
    readMember (fuel + 1) (cs ++ rest) = afterMember fuel m rest := by
  match h with
  | @SpellsMember.named b _ b' cs _ _ hb (.quoted htext) hb' h =>
    simp only [List.length_append, List.length_cons] at hfuel
    obtain ⟨after, hread, hafter⟩ := readValue_element h fuel (by omega) hrest
    simp only [List.append_assoc, List.cons_append, readMember, skip_append hb,
      skip_cons (c := '"') (by decide), List.nil_append, readChars_spells htext,
      skip_append hb', skip_cons (c := ':') (by decide), hread, hafter]
    rfl

theorem readMember_spells {cs : List Char} {ms : List (String × Json)}
    (h : SpellsMembers cs ms) (fuel : Nat) (hfuel : cs.length + 1 < fuel) (rest : List Char) :
    readMember fuel (cs ++ '\x7d' :: rest) = some (ms, rest) := by
  obtain ⟨fuel, rfl⟩ : ∃ n, fuel = n + 1 := ⟨fuel - 1, by omega⟩
  match h with
  | .one h =>
    rw [readMember_member h _ (by omega) (ends_cons (by decide) rest), afterMember,
      skip_cons (by decide)]
    rfl
  | .cons h hs =>
    simp only [List.length_append, List.length_cons] at hfuel
    rw [List.append_assoc, List.cons_append,
      readMember_member h _ (by omega) (ends_cons (by decide) _), afterMember,
      skip_cons (by decide)]
    simp only [readMember_spells hs fuel (by omega) rest, Option.map_some]

end

/-- **Every document is read as the value that it spells.** -/
theorem read?_eq_some {text : String} {v : Json} (h : IsDocument text v) :
    read? text = some v := by
  obtain ⟨after, hread, hafter⟩ :=
    readValue_element h _ (Nat.lt_succ_self _) ends_nil
  rw [List.append_nil] at hread
  rw [read?, hread]
  simp only [hafter]
  rfl

/-- No document spells two values. -/
theorem IsDocument.unique {text : String} {v w : Json} (hv : IsDocument text v)
    (hw : IsDocument text w) : v = w :=
  Option.some.inj ((read?_eq_some hv).symm.trans (read?_eq_some hw))

end Json

end Outflow
