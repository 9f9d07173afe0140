/-!
# Bytes and the text shown for them

Output is captured as raw octets and shown as text.  `Bytes.text` is the one way from
octets to text in the whole library: octets that are UTF-8 read as themselves, and
anything else is written octet by octet, an ASCII octet as its character and every other
octet as `\xNN`.

`Bytes.lossyText` is the view for a reader that wants no escapes: each ill-formed stretch
becomes one replacement character.
-/

namespace Outflow

/-- Raw output, one octet per element. -/
abbrev Bytes := List UInt8

namespace Bytes

/-- The octet that ends a line. -/
def newline : UInt8 := 10

/-- The UTF-8 octets of a text. -/
def ofText (s : String) : Bytes := s.toByteArray.data.toList

/-- The text that these octets encode, if they are UTF-8. -/
def utf8? (bs : Bytes) : Option String := String.fromUTF8? bs.toByteArray

/-- The lowercase hexadecimal digit of a number below 16. -/
def hexDigit (n : Nat) : Char := if n < 10 then Char.ofNat (48 + n) else Char.ofNat (87 + n)

/-- The spelling of one octet of text that is not UTF-8. -/
def escapeOctet (b : UInt8) : List Char :=
  if b < 128 then [Char.ofNat b.toNat]
  else ['\\', 'x', hexDigit (b.toNat / 16), hexDigit (b.toNat % 16)]

/-- Every octet spelled out on its own. -/
def escape (bs : Bytes) : String := String.ofList (bs.flatMap escapeOctet)

/-- The text shown for some octets: the text they encode, or else every octet spelled out. -/
def text (bs : Bytes) : String := (utf8? bs).getD (escape bs)

/-! ### Ill-formed stretches -/

/-- A continuation octet carries six bits of a character. -/
def isContinuation (b : UInt8) : Bool := 128 ≤ b && b < 192

/-- The number of octets of the character that `lead` begins, and the range of the octet
after it.  An octet that begins no character has none. -/
def leadShape (lead : UInt8) : Option (Nat × UInt8 × UInt8) :=
  if lead < 128 then some (1, 0, 0)
  else if lead < 194 then none
  else if lead < 224 then some (2, 128, 191)
  else if lead == 224 then some (3, 160, 191)
  else if lead == 237 then some (3, 128, 159)
  else if lead < 240 then some (3, 128, 191)
  else if lead == 240 then some (4, 144, 191)
  else if lead < 244 then some (4, 128, 191)
  else if lead == 244 then some (4, 128, 143)
  else none

/-- How many of the octets after `lead` continue its character, and whether they complete it. -/
def extent (lead : UInt8) (rest : Bytes) : Nat × Bool :=
  match leadShape lead with
  | none => (0, false)
  | some (1, _, _) => (0, true)
  | some (size, low, high) =>
    match rest with
    | [] => (0, false)
    | second :: more =>
      if low ≤ second && second ≤ high then
        let tail := (more.take (size - 2)).takeWhile isContinuation
        (1 + tail.length, tail.length == size - 2)
      else (0, false)

/-- The code point of a complete character, from its lead and its continuation octets. -/
def codePoint (lead : UInt8) (tail : Bytes) : Nat :=
  let first :=
    if lead < 128 then lead.toNat
    else if lead < 224 then lead.toNat % 32
    else if lead < 240 then lead.toNat % 16
    else lead.toNat % 8
  tail.foldl (fun n b => n * 64 + b.toNat % 64) first

/-- The characters of some octets, each ill-formed stretch replaced.  `skip` octets belong
to the character that was read last. -/
def lossyChars : (skip : Nat) → Bytes → Array Char → Array Char
  | _, [], read => read
  | skip + 1, _ :: rest, read => lossyChars skip rest read
  | 0, lead :: rest, read =>
    let (more, complete) := extent lead rest
    let c := if complete then Char.ofNat (codePoint lead (rest.take more)) else '\uFFFD'
    lossyChars more rest (read.push c)

/-- The text of some octets, with U+FFFD for each ill-formed stretch. -/
def lossyText (bs : Bytes) : String :=
  (utf8? bs).getD (String.ofList (lossyChars 0 bs #[]).toList)

/-! ### Small facts -/

/-- A text comes back from its octets. -/
theorem utf8?_ofText (s : String) : utf8? (ofText s) = some s := by
  have hbytes : (ofText s).toByteArray = s.toByteArray := by
    rw [ofText]
    ext1
    simp
  rw [utf8?, hbytes]
  simp only [String.fromUTF8?, Option.dite_none_right_eq_some, Option.some.injEq]
  exact ⟨s.isValidUTF8, rfl⟩

end Bytes

end Outflow
