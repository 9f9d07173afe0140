/-!
# JSON values and their layout

A JSON value, its members in the order in which they are written, and the layout used for
reports: one member or element to a line, two spaces to a level, nothing between the brackets
of an empty array or object.
-/

namespace Outflow

/-- A JSON value. -/
inductive Json where
  | null
  | bool (b : Bool)
  /-- The number `coefficient * 10 ^ exponent`. -/
  | number (coefficient exponent : Int)
  | string (s : String)
  | array (elements : List Json)
  | object (members : List (String × Json))
  deriving Repr

namespace Json

/-- A whole number. -/
def int (n : Int) : Json := .number n 0

/-- An array of strings. -/
def strings (ss : List String) : Json := .array (ss.map .string)

/-- The lowercase hexadecimal digit of a number below 16. -/
def hexDigit (n : Nat) : Char := if n < 10 then Char.ofNat (48 + n) else Char.ofNat (87 + n)

/-- The spelling of a character inside a string. -/
def stringChar (c : Char) : List Char :=
  if c = '"' then ['\\', '"']
  else if c = '\\' then ['\\', '\\']
  else if c = '\n' then ['\\', 'n']
  else if c = '\r' then ['\\', 'r']
  else if c = '\t' then ['\\', 't']
  else if c = '\x08' then ['\\', 'b']
  else if c = '\x0c' then ['\\', 'f']
  else if c.toNat < 32 then
    ['\\', 'u', '0', '0', hexDigit (c.toNat / 16), hexDigit (c.toNat % 16)]
  else [c]

/-- The spelling of a string. -/
def stringText (s : String) : List Char := '"' :: s.toList.flatMap stringChar ++ ['"']

/-- The spelling of a number. -/
def numberText (coefficient exponent : Int) : List Char :=
  (toString coefficient).toList ++
    if exponent = 0 then [] else 'e' :: (toString exponent).toList

/-- The start of a line at a level. -/
def newLine (level : Nat) : List Char := '\n' :: List.replicate (2 * level) ' '

mutual

/-- The layout of a value whose own line stands at a level. -/
def layout (level : Nat) : Json → List Char
  | null => "null".toList
  | bool true => "true".toList
  | bool false => "false".toList
  | number coefficient exponent => numberText coefficient exponent
  | string s => stringText s
  | array [] => ['[', ']']
  | array (v :: vs) =>
    '[' :: newLine (level + 1) ++ layout (level + 1) v ++ elements (level + 1) vs ++
      newLine level ++ [']']
  | object [] => ['\x7b', '\x7d']
  | object ((k, v) :: ms) =>
    '\x7b' :: newLine (level + 1) ++ stringText k ++ [':', ' '] ++ layout (level + 1) v ++
      members (level + 1) ms ++ newLine level ++ ['\x7d']

/-- The layout of the elements after the first. -/
def elements (level : Nat) : List Json → List Char
  | [] => []
  | v :: vs => ',' :: newLine level ++ layout level v ++ elements level vs

/-- The layout of the members after the first. -/
def members (level : Nat) : List (String × Json) → List Char
  | [] => []
  | (k, v) :: ms =>
    ',' :: newLine level ++ stringText k ++ [':', ' '] ++ layout level v ++ members level ms

end

/-- The text of a value. -/
def pretty (v : Json) : String := String.ofList (layout 0 v)

end Json

end Outflow
