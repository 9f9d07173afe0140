import Outflow.Json.Reader
import Outflow.Text.Bytes

/-!
# The grammar of JSON

Which texts spell which values, as a relation that no reader or writer takes part in.  An element
is a value with blanks around it, and a document is one element.  An escape for half of a
surrogate pair spells no character, so a document that holds one spells no value.
-/

namespace Outflow

namespace Json

/-- A stretch of blanks. -/
def IsBlank (cs : List Char) : Prop := ∀ c ∈ cs, isSpace c = true

/-! ### Strings -/

/-- The letters after a backslash and the characters that they stand for. -/
def shortEscapes : List (Char × Char) :=
  [('"', '"'), ('\\', '\\'), ('/', '/'), ('b', '\x08'), ('f', '\x0c'), ('n', '\n'), ('r', '\r'),
    ('t', '\t')]

/-- The spellings of a character inside a string. -/
inductive SpellsChar : List Char → Char → Prop
  | plain {c : Char} (hcontrol : 32 ≤ c.toNat) (hquote : c ≠ '"') (hbackslash : c ≠ '\\') :
    SpellsChar [c] c
  | short {e c : Char} (h : (e, c) ∈ shortEscapes) : SpellsChar ['\\', e] c
  | unit {a b c d : Char} {n : Nat} (h : unit? a b c d = some n) (hvalid : n.isValidChar) :
    SpellsChar ['\\', 'u', a, b, c, d] (Char.ofNat n)
  | pair {a b c d a' b' c' d' : Char} {high low : Nat} (hhigh : unit? a b c d = some high)
    (hlow : unit? a' b' c' d' = some low) (h : 0xD800 ≤ high ∧ high < 0xDC00)
    (h' : 0xDC00 ≤ low ∧ low < 0xE000) :
    SpellsChar ['\\', 'u', a, b, c, d, '\\', 'u', a', b', c', d']
      (Char.ofNat (0x10000 + (high - 0xD800) * 0x400 + (low - 0xDC00)))

/-- The spellings of some characters between quotes. -/
inductive SpellsChars : List Char → List Char → Prop
  | nil : SpellsChars [] []
  | cons {cs ds text : List Char} {c : Char} (h : SpellsChar cs c) (hs : SpellsChars ds text) :
    SpellsChars (cs ++ ds) (c :: text)

/-- The spellings of a string. -/
inductive SpellsString : List Char → String → Prop
  | quoted {cs text : List Char} (h : SpellsChars cs text) :
    SpellsString ('"' :: cs ++ ['"']) (String.ofList text)

/-! ### Numbers -/

/-- One digit or more. -/
def IsDigits (cs : List Char) : Prop := cs ≠ [] ∧ ∀ c ∈ cs, c.isDigit = true

/-- The value of some digits. -/
def digitsNat (cs : List Char) : Nat := Nat.ofDigitChars 10 cs 0

/-- The digits after the point. -/
inductive SpellsPlaces : List Char → List Char → Prop
  | none : SpellsPlaces [] []
  | point {ds : List Char} (h : IsDigits ds) : SpellsPlaces ('.' :: ds) ds

/-- The signs that an exponent may have. -/
inductive SpellsSign : List Char → Int → Prop
  | none : SpellsSign [] 1
  | plus : SpellsSign ['+'] 1
  | minus : SpellsSign ['-'] (-1)

/-- The exponent of a number, zero if it has none. -/
inductive SpellsExponent : List Char → Int → Prop
  | none : SpellsExponent [] 0
  | marked {e : Char} {ss ds : List Char} {sign : Int} (he : e = 'e' ∨ e = 'E')
    (hsign : SpellsSign ss sign) (hdigits : IsDigits ds) :
    SpellsExponent (e :: ss ++ ds) (sign * digitsNat ds)

/-- The spellings of `n * 10 ^ exponent` without a sign.  Only zero begins with a zero. -/
inductive SpellsMagnitude : List Char → Nat → Int → Prop
  | mk {ds ps places es : List Char} {exponent : Int} (hdigits : IsDigits ds)
    (hzero : ds.head? = some '0' → ds = ['0']) (hplaces : SpellsPlaces ps places)
    (hexponent : SpellsExponent es exponent) :
    SpellsMagnitude (ds ++ (ps ++ es)) (digitsNat (ds ++ places)) (exponent - places.length)

/-- The spellings of a number. -/
inductive SpellsNumber : List Char → Int → Int → Prop
  | positive {cs : List Char} {n : Nat} {exponent : Int} (h : SpellsMagnitude cs n exponent) :
    SpellsNumber cs n exponent
  | negative {cs : List Char} {n : Nat} {exponent : Int} (h : SpellsMagnitude cs n exponent) :
    SpellsNumber ('-' :: cs) (-n) exponent

/-! ### Values -/

mutual

/-- The spellings of a value, without blanks around it. -/
inductive SpellsValue : List Char → Json → Prop
  | nullWord : SpellsValue "null".toList .null
  | trueWord : SpellsValue "true".toList (.bool true)
  | falseWord : SpellsValue "false".toList (.bool false)
  | number {cs : List Char} {n exponent : Int} (h : SpellsNumber cs n exponent) :
    SpellsValue cs (.number n exponent)
  | string {cs : List Char} {s : String} (h : SpellsString cs s) : SpellsValue cs (.string s)
  | noElements {b : List Char} (h : IsBlank b) : SpellsValue ('[' :: b ++ [']']) (.array [])
  | array {cs : List Char} {vs : List Json} (h : SpellsElements cs vs) :
    SpellsValue ('[' :: cs ++ [']']) (.array vs)
  | noMembers {b : List Char} (h : IsBlank b) :
    SpellsValue ('\x7b' :: b ++ ['\x7d']) (.object [])
  | object {cs : List Char} {ms : List (String × Json)} (h : SpellsMembers cs ms) :
    SpellsValue ('\x7b' :: cs ++ ['\x7d']) (.object ms)

/-- The spellings of a value with blanks around it. -/
inductive SpellsElement : List Char → Json → Prop
  | padded {b cs b' : List Char} {v : Json} (hb : IsBlank b) (h : SpellsValue cs v)
    (hb' : IsBlank b') : SpellsElement (b ++ cs ++ b') v

/-- One element or more, with commas between. -/
inductive SpellsElements : List Char → List Json → Prop
  | one {cs : List Char} {v : Json} (h : SpellsElement cs v) : SpellsElements cs [v]
  | cons {cs ds : List Char} {v : Json} {vs : List Json} (h : SpellsElement cs v)
    (hs : SpellsElements ds vs) : SpellsElements (cs ++ ',' :: ds) (v :: vs)

/-- A name and the element that belongs to it. -/
inductive SpellsMember : List Char → String × Json → Prop
  | named {b ks b' cs : List Char} {k : String} {v : Json} (hb : IsBlank b)
    (hk : SpellsString ks k) (hb' : IsBlank b') (h : SpellsElement cs v) :
    SpellsMember (b ++ ks ++ b' ++ ':' :: cs) (k, v)

/-- One member or more, with commas between. -/
inductive SpellsMembers : List Char → List (String × Json) → Prop
  | one {cs : List Char} {m : String × Json} (h : SpellsMember cs m) : SpellsMembers cs [m]
  | cons {cs ds : List Char} {m : String × Json} {ms : List (String × Json)}
    (h : SpellsMember cs m) (hs : SpellsMembers ds ms) :
    SpellsMembers (cs ++ ',' :: ds) (m :: ms)

end

/-- A text is a document for the value that it spells. -/
def IsDocument (text : String) (v : Json) : Prop := SpellsElement text.toList v

end Json

end Outflow
