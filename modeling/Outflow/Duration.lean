/-!
# Durations

A span of time: whole seconds in a machine word and nanoseconds below one second.  The
sum of two spans exists only while its seconds fit the word.

`Duration.brief` is the short spelling used in messages: one number with a fraction, in the
largest unit that has a whole part.
-/

namespace Outflow

/-- A span of time. -/
@[ext] structure Duration where
  /-- Whole seconds. -/
  secs : UInt64
  /-- Nanoseconds beyond the whole seconds. -/
  nanos : Nat
  nanos_lt : nanos < 1000000000
  deriving DecidableEq, Repr

namespace Duration

/-- No time at all. -/
def zero : Duration := ⟨0, 0, by decide⟩

/-- A span of whole seconds. -/
def ofSecs (secs : UInt64) : Duration := ⟨secs, 0, by decide⟩

/-- A span of milliseconds; its seconds fit the word whenever the milliseconds do. -/
def ofMillis (ms : Nat) : Duration :=
  ⟨UInt64.ofNat (ms / 1000), ms % 1000 * 1000000, by omega⟩

/-- The span in nanoseconds. -/
def toNanos (d : Duration) : Nat := d.secs.toNat * 1000000000 + d.nanos

/-- The whole milliseconds of a span. -/
def toMillis (d : Duration) : Nat := d.secs.toNat * 1000 + d.nanos / 1000000

/-- The milliseconds that a timer for this span runs: a part of a millisecond counts as one. -/
def ceilMillis (d : Duration) : Nat := d.secs.toNat * 1000 + (d.nanos + 999999) / 1000000

/-- The span of that many nanoseconds, if its seconds fit the word. -/
def ofNanos? (n : Nat) : Option Duration :=
  if n / 1000000000 < UInt64.size then
    some ⟨UInt64.ofNat (n / 1000000000), n % 1000000000, by omega⟩
  else none

/-- The sum of two spans, if its seconds fit the word. -/
def add? (d e : Duration) : Option Duration := ofNanos? (d.toNanos + e.toNanos)

/-- The last `width` decimal digits of a number. -/
def paddedDigits : (width : Nat) → Nat → List Char
  | 0, _ => []
  | width + 1, n => paddedDigits width (n / 10) ++ [Char.ofNat (48 + n % 10)]

/-- A decimal with `width` places, without zeros at its end. -/
def decimal (whole fraction width : Nat) : String :=
  let places := (paddedDigits width fraction).reverse.dropWhile (· = '0')
  String.ofList ((toString whole).toList ++ if places.isEmpty then [] else '.' :: places.reverse)

/-- One number in the largest unit that has a whole part. -/
def brief (d : Duration) : String :=
  if d.secs ≠ 0 then decimal d.secs.toNat d.nanos 9 ++ "s"
  else if 1000000 ≤ d.nanos then decimal (d.nanos / 1000000) (d.nanos % 1000000) 6 ++ "ms"
  else if 1000 ≤ d.nanos then decimal (d.nanos / 1000) (d.nanos % 1000) 3 ++ "µs"
  else decimal d.nanos 0 0 ++ "ns"

/-! ### Small facts -/

@[simp] theorem toNanos_zero : zero.toNanos = 0 := rfl

/-- A span is determined by its nanoseconds. -/
theorem toNanos_injective {d e : Duration} (h : d.toNanos = e.toNanos) : d = e := by
  have hd := d.nanos_lt
  have he := e.nanos_lt
  simp only [toNanos] at h
  have hs : d.secs.toNat = e.secs.toNat := by omega
  exact Duration.ext (UInt64.toNat_inj.1 hs) (by omega)

/-- Every span comes back from its nanoseconds. -/
theorem ofNanos?_toNanos (d : Duration) : ofNanos? d.toNanos = some d := by
  have hn := d.nanos_lt
  have hs := d.secs.toNat_lt
  have h1 : d.toNanos / 1000000000 = d.secs.toNat := by simp only [toNanos]; omega
  have h2 : d.toNanos % 1000000000 = d.nanos := by simp only [toNanos]; omega
  simp only [ofNanos?, h1, h2]
  rw [if_pos (by simpa [UInt64.size] using hs)]
  simp

/-- A timer never runs shorter than the span it was set for. -/
theorem toNanos_le_ceilMillis (d : Duration) : d.toNanos ≤ d.ceilMillis * 1000000 := by
  simp only [toNanos, ceilMillis]; omega

end Duration

end Outflow
