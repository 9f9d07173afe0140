import Outflow.Duration.Units
import Outflow.Proofs.Text.Decimal

/-!
# The canonical spelling of a duration reads back

`Duration.render` writes a duration as amounts of ever shorter units, and `Duration.ofUnits?`
sums what it reads.  The amounts of a duration sum to it (`span_amounts`), and a spelling of
amounts is read as their sum (`readRest_spelling`), which never gets past what it ends at.

## Key results

- `addTerm_amount`: one amount, added
- `readRest_spelling`: the spelling of some amounts
- `ofUnits?_render`: every duration comes back from its canonical spelling
-/

namespace Outflow

namespace Duration

/-! ### Amounts -/

/-- The name of a unit in the canonical spelling, for one of it or for more. -/
def TimeUnit.label : TimeUnit → (plural : Bool) → String
  | nanosecond, _ => "ns"
  | microsecond, _ => "us"
  | millisecond, _ => "ms"
  | second, _ => "s"
  | minute, _ => "m"
  | hour, _ => "h"
  | day, plural => if plural then "days" else "day"
  | week, plural => if plural then "weeks" else "week"
  | month, plural => if plural then "months" else "month"
  | year, plural => if plural then "years" else "year"

/-- A label is a name of its unit, in letters. -/
theorem TimeUnit.label_spec (u : TimeUnit) (plural : Bool) :
    TimeUnit.ofName? (u.label plural) = some u ∧ (u.label plural).toList ≠ [] ∧
      ∀ c ∈ (u.label plural).toList, isUnitLetter c = true := by
  refine ⟨?_, ?_, List.all_eq_true.1 ?_⟩ <;> cases u <;> cases plural <;> decide

/-- A number of units. -/
structure Amount where
  count : Nat
  unit : TimeUnit
  deriving DecidableEq, Repr

namespace Amount

def nanos (a : Amount) : Nat := a.count * a.unit.nanos

def term (a : Amount) : Term := ⟨a.count, none, a.unit⟩

def label (a : Amount) : String := a.unit.label (a.count ≠ 1)

def spelling (a : Amount) : List Char := Nat.toDigits 10 a.count ++ a.label.toList

/-- Parts of a second are counted up to the next longer unit. -/
def Small (a : Amount) : Prop := a.unit.nanos < 1000000000 → a.count < 1000

end Amount

/-- The nanoseconds of some amounts together. -/
def span : List Amount → Nat
  | [] => 0
  | a :: as => a.nanos + span as

theorem span_nil : span [] = 0 := by rw [span]

theorem span_cons (a : Amount) (as : List Amount) : span (a :: as) = a.nanos + span as := by
  rw [span]

/-- The amounts that make up a duration, longest unit first. -/
def amounts (d : Duration) : List Amount :=
  let s := d.secs.toNat
  let inYear := s % 31557600
  let inMonth := inYear % 2630016
  let inDay := inMonth % 86400
  [⟨s / 31557600, .year⟩, ⟨inYear / 2630016, .month⟩, ⟨inMonth / 86400, .day⟩,
    ⟨inDay / 3600, .hour⟩, ⟨inDay % 3600 / 60, .minute⟩, ⟨inDay % 60, .second⟩,
    ⟨d.nanos / 1000000, .millisecond⟩, ⟨d.nanos / 1000 % 1000, .microsecond⟩,
    ⟨d.nanos % 1000, .nanosecond⟩]

/-- The amounts of a duration sum to it. -/
theorem span_amounts (d : Duration) : span d.amounts = d.toNanos := by
  rw [amounts]
  simp only [span_cons, span_nil, Amount.nanos, TimeUnit.nanos, toNanos]
  generalize d.secs.toNat = s
  omega

theorem small_of_mem_amounts {d : Duration} {a : Amount} (h : a ∈ d.amounts) : a.Small := by
  have hn := d.nanos_lt
  intro hunit
  simp only [amounts, List.mem_cons, List.not_mem_nil, or_false] at h
  rcases h with rfl | rfl | rfl | rfl | rfl | rfl | rfl | rfl | rfl <;>
    simp only [TimeUnit.nanos] at hunit ⊢ <;> omega

/-- No amount of a duration is more than a machine word of units. -/
theorem count_le_of_mem_amounts {d : Duration} {a : Amount} (h : a ∈ d.amounts) :
    a.count ≤ countLimit := by
  have hn := d.nanos_lt
  have hs := d.secs.toNat_lt
  simp only [amounts, List.mem_cons, List.not_mem_nil, or_false] at h
  simp only [countLimit, UInt64.size]
  rcases h with rfl | rfl | rfl | rfl | rfl | rfl | rfl | rfl | rfl <;> simp only <;> omega

/-- A part counts something, or it is left out. -/
theorem counting_eq (u : TimeUnit) (name ending : String) (n : Nat)
    (hone : u.label false = name) (hmore : u.label true = name ++ ending) :
    (counting n name ending).map String.toList =
      ([⟨n, u⟩].filter (fun a : Amount => a.count ≠ 0)).map Amount.spelling := by
  by_cases hzero : n = 0
  · simp [counting, hzero]
  · by_cases hn : n = 1
    · simp [counting, hn, Amount.spelling, Amount.label, hone, String.toList_append]
    · simp [counting, hzero, hn, Amount.spelling, Amount.label, hmore, String.toList_append]

/-- The parts of the canonical spelling are the amounts that count something. -/
theorem parts_eq (d : Duration) :
    d.parts.map String.toList = (d.amounts.filter (·.count ≠ 0)).map Amount.spelling := by
  simp only [parts, List.map_append]
  rw [counting_eq .year "year" "s" _ rfl rfl, counting_eq .month "month" "s" _ rfl rfl,
    counting_eq .day "day" "s" _ rfl rfl, counting_eq .hour "h" "" _ rfl rfl,
    counting_eq .minute "m" "" _ rfl rfl, counting_eq .second "s" "" _ rfl rfl,
    counting_eq .millisecond "ms" "" _ rfl rfl, counting_eq .microsecond "us" "" _ rfl rfl,
    counting_eq .nanosecond "ns" "" _ rfl rfl]
  simp only [← List.map_append, ← List.filter_append]
  rfl

/-! ### Adding amounts -/

/-- Whatever is no longer than a duration is a duration. -/
theorem exists_toNanos_eq {n : Nat} {d : Duration} (h : n ≤ d.toNanos) :
    ∃ e : Duration, e.toNanos = n := by
  have hs := d.secs.toNat_lt
  have hn := d.nanos_lt
  simp only [toNanos] at h
  refine ⟨⟨UInt64.ofNat (n / 1000000000), n % 1000000000, by omega⟩, ?_⟩
  simp only [toNanos]
  rw [UInt64.toNat_ofNat_of_lt' (by simp only [UInt64.size]; omega)]
  omega

theorem addGrains_eq {total sum : Duration} {count grain : Nat} (hcount : count ≤ countLimit)
    (hnanos : grain = 1 → total.nanos + count ≤ countLimit)
    (hsum : sum.toNanos = total.toNanos + count * grain) :
    addGrains total count grain = .ok sum := by
  have hfits : ofNanos? (total.toNanos + count * grain) = some sum := by
    rw [← hsum, ofNanos?_toNanos]
  have hcounted : counted count = .ok count := if_pos hcount
  simp only [addGrains, hcounted, hfits, bind, Except.bind]
  split
  · rename_i hgrain
    have hmet : counted (total.nanos + count) = .ok (total.nanos + count) :=
      if_pos (hnanos hgrain)
    rw [hmet]
    rfl
  · rfl

/-- A unit is a whole number of its grains: nanoseconds for parts of a second, seconds for the
    rest. -/
theorem TimeUnit.wholeGrain_spec (u : TimeUnit) :
    u.nanos / u.wholeGrain * u.wholeGrain = u.nanos ∧
      (u.wholeGrain = 1 ∧ u.nanos ≤ 1000000 ∨ u.wholeGrain = 1000000000) := by
  cases u <;> decide

/-- An amount is added as long as the sum is a duration. -/
theorem addTerm_amount {total sum : Duration} {a : Amount} (hsmall : a.Small)
    (hsum : sum.toNanos = total.toNanos + a.nanos) : addTerm total a.term = .ok sum := by
  obtain ⟨hwhole, hgrain⟩ := a.unit.wholeGrain_spec
  have hgrains : a.count * (a.unit.nanos / a.unit.wholeGrain) * a.unit.wholeGrain = a.nanos := by
    rw [Nat.mul_assoc, hwhole, Amount.nanos]
  have hcount : a.count * (a.unit.nanos / a.unit.wholeGrain) ≤ countLimit ∧
      (a.unit.wholeGrain = 1 →
        total.nanos + a.count * (a.unit.nanos / a.unit.wholeGrain) ≤ countLimit) := by
    have hn := sum.nanos_lt
    have hs := sum.secs.toNat_lt
    have ht := total.nanos_lt
    simp only [toNanos] at hsum
    simp only [countLimit, UInt64.size]
    generalize a.count * (a.unit.nanos / a.unit.wholeGrain) = grains at hgrains ⊢
    obtain ⟨hgrain, hshort⟩ | hgrain := hgrain
    · -- Less than a thousand of a part of a second is at most a second.
      have hparts : a.nanos ≤ 1000 * 1000000 :=
        Nat.mul_le_mul (Nat.le_of_lt (hsmall (by omega))) hshort
      rw [hgrain, Nat.mul_one] at hgrains
      omega
    · -- The seconds counted are among those of the sum.
      rw [hgrain] at hgrains ⊢
      omega
  simp only [addTerm, Amount.term, addGrains_eq hcount.1 hcount.2 (hgrains ▸ hsum), bind,
    Except.bind]

/-- Amounts are added one after the other as long as their sum is a duration. -/
theorem foldlM_addTerm {as : List Amount} (h : ∀ a ∈ as, a.Small) {total sum : Duration}
    (hsum : sum.toNanos = total.toNanos + span as) :
    (as.map Amount.term).foldlM addTerm total = .ok sum := by
  induction as generalizing total with
  | nil =>
    rw [span_nil, Nat.add_zero] at hsum
    rw [toNanos_injective hsum]
    rfl
  | cons a as ih =>
    rw [span_cons, ← Nat.add_assoc] at hsum
    obtain ⟨next, hnext⟩ := exists_toNanos_eq (n := total.toNanos + a.nanos) (d := sum) (by omega)
    rw [List.map_cons, List.foldlM_cons, addTerm_amount (h a List.mem_cons_self) hnext]
    exact ih (fun b hb => h b (List.mem_cons_of_mem a hb)) (by rw [hnext, hsum])

/-- Amounts that count nothing add nothing. -/
theorem span_filter (as : List Amount) : span (as.filter (·.count ≠ 0)) = span as := by
  induction as with
  | nil => rfl
  | cons a as ih =>
    rw [List.filter_cons, span_cons]
    by_cases h : a.count = 0
    · rw [if_neg (by simp [h]), ih, Amount.nanos, h, Nat.zero_mul, Nat.zero_add]
    · rw [if_pos (by simp [h]), span_cons, ih]

/-! ### Reading amounts -/

theorem le_ofDigitChars (cs : List Char) (n : Nat) : n ≤ Nat.ofDigitChars 10 cs n := by
  rw [Nat.ofDigitChars_eq_ofDigitChars_zero]
  exact Nat.le_add_right_of_le (Nat.le_mul_of_pos_left n (Nat.pow_pos (by decide)))

/-- Digits that do not get past the limit are read in full. -/
theorem digitsValue_eq {cs : List Char} (hcs : ∀ c ∈ cs, c.isDigit = true) {n : Nat}
    (hle : Nat.ofDigitChars 10 cs n ≤ countLimit) :
    digitsValue n cs = .ok (Nat.ofDigitChars 10 cs n) := by
  induction cs generalizing n with
  | nil => rfl
  | cons c cs ih =>
    rw [Nat.ofDigitChars_cons, Nat.mul_comm] at hle ⊢
    have hcounted : counted (n * 10 + (c.toNat - 48)) = .ok (n * 10 + (c.toNat - 48)) :=
      if_pos (Nat.le_trans (le_ofDigitChars cs _) hle)
    simp only [digitsValue, Text.digit?_of_isDigit (hcs c List.mem_cons_self), hcounted, bind,
      Except.bind]
    exact ih (fun d hd => hcs d (List.mem_cons_of_mem c hd)) hle

theorem isNumeric_of_isDigit {c : Char} (h : c.isDigit = true) : isNumeric c = true := by
  rw [isNumeric, Text.digit?_of_isDigit h]
  rfl

theorem toNat_of_isUnitLetter {c : Char} (h : isUnitLetter c = true) :
    65 ≤ c.toNat ∧ c.toNat ≤ 122 ∨ c.toNat = 181 := by
  simp only [isUnitLetter, Bool.or_eq_true, Bool.and_eq_true, decide_eq_true_eq] at h
  obtain (⟨hlow, hhigh⟩ | ⟨hlow, hhigh⟩) | rfl := h
  · exact .inl ⟨Nat.le_trans (by decide) hlow, hhigh⟩
  · exact .inl ⟨hlow, Nat.le_trans hhigh (by decide)⟩
  · exact .inr rfl

/-- A letter belongs to no number. -/
theorem isNumeric_of_isUnitLetter {c : Char} (h : isUnitLetter c = true) : isNumeric c = false := by
  have hcode := toNat_of_isUnitLetter h
  have hdigit : Text.digit? c = none := by
    refine if_neg fun hdigit => ?_
    have := Text.toNat_of_isDigit ((Text.isDigit_iff c).2 hdigit)
    omega
  have hblank : Text.isBlank c = false := by
    simp only [Text.isBlank, Bool.or_eq_false_iff, Bool.and_eq_false_iff, decide_eq_false_iff_not,
      beq_eq_false_iff_ne]
    omega
  rw [isNumeric, hdigit, hblank]
  rfl

/-- A number without a fraction ends where its unit begins. -/
theorem readNumber_digits {ds rest : List Char} (hds : ∀ c ∈ ds, c.isDigit = true) {c : Char}
    (hc : isUnitLetter c = true) {n : Nat} (hle : Nat.ofDigitChars 10 ds n ≤ countLimit)
    (offset : Nat) :
    readNumber n offset (ds ++ c :: rest) =
      .ok (Nat.ofDigitChars 10 ds n, none, offset + octets ds, c :: rest) := by
  have hnumeric : ∀ c ∈ ds, isNumeric c = true := fun c hc => isNumeric_of_isDigit (hds c hc)
  have hstop : ∀ d ∈ (c :: rest).head?, isNumeric d = false := by
    simp only [List.head?_cons, Option.mem_some_iff]
    rintro d rfl
    exact isNumeric_of_isUnitLetter hc
  have hpoint : c ≠ '.' := by
    rintro rfl
    contradiction
  simp only [readNumber, Text.takeWhile_append_of_head? hnumeric hstop,
    Text.dropWhile_append_of_head? hnumeric hstop, digitsValue_eq hds hle]
  split
  case h_1 => contradiction
  case h_2 heq => exact absurd (List.cons.inj heq).1 hpoint
  case h_3 hwhole _ =>
    obtain rfl := Except.ok.inj hwhole
    simp [hc]

/-- What may come after an amount: nothing, or a space and whatever follows. -/
def Ends (tail : List Char) : Prop := ∀ c ∈ tail.head?, c = ' '

/-- An amount is read in full.  The first digit of its number has been taken off. -/
theorem readTerm_amount {a : Amount} (hcount : a.count ≤ countLimit) {d : Char} {ds : List Char}
    (hdigits : Nat.toDigits 10 a.count = d :: ds) {tail : List Char} (htail : Ends tail)
    (offset : Nat) :
    ∃ o, readTerm (d.toNat - 48) offset (ds ++ (a.label.toList ++ tail)) =
      .ok (a.term, o, tail) := by
  obtain ⟨hname, hne, hletters⟩ := a.unit.label_spec (a.count ≠ 1)
  have hdigit : ∀ c ∈ ds, c.isDigit = true := fun c hc =>
    Text.isDigit_of_mem_toDigits (n := a.count) (hdigits ▸ List.mem_cons_of_mem d hc)
  have hvalue : Nat.ofDigitChars 10 ds (d.toNat - 48) = a.count := by
    have := Nat.ofDigitChars_toDigits (b := 10) (n := a.count) (by decide) (by decide)
    rw [hdigits, Nat.ofDigitChars_cons] at this
    simpa using this
  have hstop : ∀ c ∈ tail.head?, isUnitLetter c = false := by
    intro c hc
    rw [htail c hc]
    decide
  have hnumeric : tail.head?.all isNumeric = true := by
    rw [Option.all_eq_true]
    intro c hc
    rw [htail c hc]
    decide
  change TimeUnit.ofName? a.label = some a.unit at hname
  change a.label.toList ≠ [] at hne
  change ∀ c ∈ a.label.toList, isUnitLetter c = true at hletters
  have hnumber : readNumber (d.toNat - 48) offset (ds ++ (a.label.toList ++ tail)) =
      .ok (a.count, none, offset + octets ds, a.label.toList ++ tail) := by
    obtain ⟨l, ls, hl⟩ := List.exists_cons_of_ne_nil hne
    have hletter := hletters l (hl ▸ List.mem_cons_self)
    rw [hl, List.cons_append, readNumber_digits hdigit hletter (by rw [hvalue]; exact hcount),
      hvalue]
  have hspelled : a.label ≠ "" := fun h => hne (h ▸ rfl)
  refine ⟨offset + octets ds + octets a.label.toList, ?_⟩
  simp only [readTerm, hnumber, Text.takeWhile_append_of_head? hletters hstop,
    Text.dropWhile_append_of_head? hletters hstop, hnumeric, String.ofList_toList, hspelled, hname,
    Bool.not_true, Bool.false_eq_true, if_false]
  rfl

/-- What a reading comes to from the next number on. -/
def readRest (total : Duration) (start offset : Nat) (cs : List Char) :
    Except UnitsError Duration :=
  match firstDigit start offset cs with
  | .error e => .error e
  | .ok none => .ok total
  | .ok (some (d, offset, rest)) => readTerms total d offset rest

theorem readTerms_eq {total : Duration} {n offset o : Nat} {cs rest : List Char} {t : Term}
    (h : readTerm n offset cs = .ok (t, o, rest)) :
    readTerms total n offset cs =
      (addTerm total t).bind fun total => readRest total (nextStart o rest) o rest := by
  rw [readTerms]
  split
  · simp_all
  · rename_i hterm
    obtain ⟨rfl, rfl, rfl⟩ : _ ∧ _ ∧ _ := by simpa [h] using hterm
    cases addTerm total t with
    | error e => rfl
    | ok sum =>
      simp only [Except.bind, readRest]
      split <;> simp_all

theorem firstDigit_digit {c : Char} (h : c.isDigit = true) (start offset : Nat)
    (cs : List Char) :
    firstDigit start offset (c :: cs) = .ok (some (c.toNat - 48, offset + c.utf8Size, cs)) := by
  rw [firstDigit, Text.digit?_of_isDigit h]

/-- The spelling of some amounts, with a space between one and the next. -/
def spelling (as : List Amount) : List Char := [' '].intercalate (as.map Amount.spelling)

/-- The spelling of the amounts after the first. -/
def separated : List Amount → List Char
  | [] => []
  | as => ' ' :: spelling as

theorem spelling_cons (a : Amount) (as : List Amount) :
    spelling (a :: as) = a.spelling ++ separated as := by
  cases as <;> simp [spelling, separated, List.intercalate]

theorem ends_separated (as : List Amount) : Ends (separated as) := by
  cases as <;> simp [Ends, separated]

/-- An amount at the front is added, and the reading goes on after it. -/
theorem readRest_amount {a : Amount} (hcount : a.count ≤ countLimit) {tail : List Char}
    (htail : Ends tail) (total : Duration) (start offset : Nat) :
    ∃ start' offset', readRest total start offset (a.spelling ++ tail) =
      (addTerm total a.term).bind fun total => readRest total start' offset' tail := by
  obtain ⟨d, ds, hdigits, hdigit⟩ := Text.exists_toDigits_eq_cons a.count
  obtain ⟨o, hterm⟩ := readTerm_amount hcount hdigits htail (offset + d.utf8Size)
  refine ⟨nextStart o tail, o, ?_⟩
  simp only [readRest, Amount.spelling, hdigits, List.cons_append, List.append_assoc,
    firstDigit_digit hdigit]
  exact readTerms_eq hterm

/-- Amounts with spaces between them are read one after the other. -/
theorem readRest_spelling {as : List Amount} (h : ∀ a ∈ as, a.count ≤ countLimit)
    (total : Duration) (start offset : Nat) :
    readRest total start offset (spelling as) = (as.map Amount.term).foldlM addTerm total := by
  induction as generalizing total start offset with
  | nil => rfl
  | cons a as ih =>
    have hrest := ih fun b hb => h b (List.mem_cons_of_mem a hb)
    -- The space in front of the next amount moves the offset, and nothing else.
    have hseparated : ∀ total start offset, readRest total start offset (separated as) =
        (as.map Amount.term).foldlM addTerm total := by
      intro total start offset
      cases as with
      | nil => rfl
      | cons b as => exact hrest total start (offset + 1)
    obtain ⟨start', offset', hamount⟩ :=
      readRest_amount (h a List.mem_cons_self) (ends_separated as) total start offset
    rw [spelling_cons, hamount, List.map_cons, List.foldlM_cons]
    exact congrArg _ (funext fun sum => hseparated sum start' offset')

/-! ### Canonical spellings -/

/-- The amounts that the canonical spelling of a duration names. -/
def spelledAmounts (d : Duration) : List Amount :=
  if d = zero then [⟨0, .second⟩] else d.amounts.filter (·.count ≠ 0)

theorem toList_render (d : Duration) : d.render.toList = spelling d.spelledAmounts := by
  by_cases h : d = zero
  · simp only [render, spelledAmounts, if_pos h]
    decide
  · simp only [render, spelledAmounts, if_neg h]
    rw [String.toList_intercalate, parts_eq, spelling]
    rfl

/-- A canonical spelling holds digits, letters and spaces. -/
theorem mem_toList_render {d : Duration} {c : Char} (h : c ∈ d.render.toList) :
    c.isDigit = true ∨ isUnitLetter c = true ∨ c = ' ' := by
  rw [toList_render] at h
  generalize d.spelledAmounts = as at h
  induction as with
  | nil => contradiction
  | cons a as ih =>
    rw [spelling_cons, Amount.spelling, List.mem_append, List.mem_append] at h
    obtain (hdigit | hletter) | hrest := h
    · exact .inl (Text.isDigit_of_mem_toDigits hdigit)
    · exact .inr (.inl ((a.unit.label_spec _).2.2 c hletter))
    · cases as with
      | nil => contradiction
      | cons b as =>
        obtain rfl | hrest := List.mem_cons.1 hrest
        · exact .inr (.inr rfl)
        · exact ih hrest

theorem span_spelledAmounts (d : Duration) : span d.spelledAmounts = d.toNanos := by
  by_cases h : d = zero
  · rw [spelledAmounts, if_pos h, h]
    decide
  · rw [spelledAmounts, if_neg h, span_filter, span_amounts]

/-- Something is always spelled. -/
theorem spelledAmounts_ne_nil (d : Duration) : d.spelledAmounts ≠ [] := by
  intro hnil
  have hspan := span_spelledAmounts d
  rw [hnil, span_nil] at hspan
  obtain rfl : zero = d := toNanos_injective hspan
  contradiction

theorem spec_of_mem_spelledAmounts {d : Duration} {a : Amount} (h : a ∈ d.spelledAmounts) :
    a.Small ∧ a.count ≤ countLimit := by
  by_cases hd : d = zero
  · rw [spelledAmounts, if_pos hd, List.mem_singleton] at h
    subst h
    exact ⟨fun _ => by decide, by decide⟩
  · rw [spelledAmounts, if_neg hd] at h
    have hmem := (List.mem_filter.1 h).1
    exact ⟨small_of_mem_amounts hmem, count_le_of_mem_amounts hmem⟩

/-- **Every duration comes back from its canonical spelling.** -/
theorem ofUnits?_render (d : Duration) : ofUnits? d.render = .ok d := by
  obtain ⟨a, as, has⟩ := List.exists_cons_of_ne_nil (spelledAmounts_ne_nil d)
  obtain ⟨c, cs, hdigits, hdigit⟩ := Text.exists_toDigits_eq_cons a.count
  have hchars : d.render.toList = c :: (cs ++ (a.label.toList ++ separated as)) := by
    rw [toList_render, has, spelling_cons, Amount.spelling, hdigits, List.append_assoc,
      List.cons_append]
  -- A unit follows the digits, so this is not the zero that needs none.
  have hunit : d.render ≠ "0" := by
    intro h
    have hlabel : a.label.toList ≠ [] := (a.unit.label_spec _).2.1
    rw [h] at hchars
    obtain ⟨-, htail⟩ := List.cons.inj hchars
    exact hlabel (List.append_eq_nil_iff.1 (List.append_eq_nil_iff.1 htail.symm).2).1
  have hread : ofUnits? d.render = readRest zero 0 0 d.render.toList := by
    rw [ofUnits?, if_neg hunit, readRest, hchars, firstDigit_digit hdigit]
  rw [hread, toList_render, readRest_spelling fun a h => (spec_of_mem_spelledAmounts h).2]
  refine foldlM_addTerm (fun a h => (spec_of_mem_spelledAmounts h).1) ?_
  rw [span_spelledAmounts, toNanos_zero, Nat.zero_add]

end Duration

end Outflow
