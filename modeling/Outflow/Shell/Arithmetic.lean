/-!
# Arithmetic in shell programs

Expressions over 64-bit integers, with variables that can be read and set.  An expression is
evaluated while it is read; a part whose value does not matter is read without effect.
-/

namespace Outflow.Shell.Arithmetic

/-- Why an expression has no value. -/
inductive Fault where
  | missingPrimary
  /-- Something is left after the expression. -/
  | missingEnd
  | missingBracket
  | missingColon
  | divisionByZero
  | badNumber (text : String)
  /-- A quotient that is too large, which the processor does not survive. -/
  | overflow
  deriving Repr

/-- The wording of a fault. -/
def Fault.message (source : String) : Fault → String
  | missingPrimary => s!"arithmetic expression: expecting primary: \"{source}\""
  | missingEnd => s!"arithmetic expression: expecting EOF: \"{source}\""
  | missingBracket => s!"arithmetic expression: expecting ')': \"{source}\""
  | missingColon => s!"arithmetic expression: expecting ':': \"{source}\""
  | divisionByZero => s!"arithmetic expression: division by zero: \"{source}\""
  | badNumber text => s!"Illegal number: {text}"
  | overflow => "Floating point exception"

/-- The values of variables; the newest comes first. -/
abbrev Store := List (String × String)

/-- Reduce to 64 bits. -/
def wrap (n : Int) : Int := (Int64.ofInt n).toInt

/-- Drop white space. -/
def trimFront (cs : List Char) : List Char := cs.dropWhile Char.isWhitespace

/-- The value of digits in a base; nothing if one of them does not belong to it. -/
def digitsValue? (base : Nat) (cs : List Char) : Option Nat :=
  cs.foldl
    (fun n c => n.bind fun n =>
      let digit :=
        if c.isDigit then c.toNat - 48
        else if 'a' ≤ c ∧ c ≤ 'f' then c.toNat - 87
        else if 'A' ≤ c ∧ c ≤ 'F' then c.toNat - 55
        else base
      if digit < base then some (n * base + digit) else none)
    (some 0)

/-- The number that a text writes, in decimal, octal or hexadecimal. -/
def number? (cs : List Char) : Option Int :=
  match cs with
  | '-' :: cs => (magnitude? cs).map fun n => -(n : Int)
  | '+' :: cs => (magnitude? cs).map Int.ofNat
  | cs => (magnitude? cs).map Int.ofNat
where
  /-- The same without a sign. -/
  magnitude? (cs : List Char) : Option Nat :=
    match cs with
    | [] => none
    | '0' :: 'x' :: cs => if cs.isEmpty then none else digitsValue? 16 cs
    | '0' :: 'X' :: cs => if cs.isEmpty then none else digitsValue? 16 cs
    | '0' :: cs => digitsValue? 8 cs
    | cs => digitsValue? 10 cs

/-- The value of a variable; one that is not set is zero. -/
def valueOf (lookup : String → Option String) (store : Store) (name : String) :
    Except Fault Int :=
  let text := (((store.find? (·.1 = name)).map (·.2)).orElse fun () => lookup name).getD ""
  match ((trimFront text.toList).reverse.dropWhile Char.isWhitespace).reverse with
  | [] => .ok 0
  | cs =>
    match number? cs with
    | some n => if wrap n = n then .ok n else .error (.badNumber text)
    | none => .error (.badNumber text)

/-- One or zero. -/
def ofBool (b : Bool) : Int := if b then 1 else 0

/-- Apply an operator. -/
def apply (op : String) (a b : Int) : Except Fault Int :=
  let word (f : UInt64 → UInt64 → UInt64) : Int :=
    (f (Int64.ofInt a).toUInt64 (Int64.ofInt b).toUInt64).toInt64.toInt
  match op with
  | "==" => .ok (ofBool (a == b))
  | "!=" => .ok (ofBool (a != b))
  | "<=" => .ok (ofBool (a ≤ b))
  | ">=" => .ok (ofBool (a ≥ b))
  | "<" => .ok (ofBool (a < b))
  | ">" => .ok (ofBool (a > b))
  | "<<" => .ok (word fun x y => x <<< y)
  | ">>" => .ok (a >>> (b % 64).toNat)
  | "|" => .ok (word fun x y => x ||| y)
  | "^" => .ok (word fun x y => x ^^^ y)
  | "&" => .ok (word fun x y => x &&& y)
  | "+" => .ok (wrap (a + b))
  | "-" => .ok (wrap (a - b))
  | "*" => .ok (wrap (a * b))
  | "/" => divide (a.tdiv b)
  | "%" => divide (a.tmod b)
  | _ => .error .missingEnd
where
  /-- Give a result of a division, if there is one. -/
  divide (result : Int) : Except Fault Int :=
    if b = 0 then .error .divisionByZero
    else if wrap (a.tdiv b) ≠ a.tdiv b then .error .overflow
    else .ok result

/-! ### Tokens -/

/-- A part of an expression. -/
inductive Token where
  | number (n : Int)
  | name (s : String)
  | operator (s : String)
  /-- Something without a meaning. -/
  | bad
  | done
  deriving DecidableEq, Repr

/-- The operators.  Where one is the front of another the longer one comes first. -/
def operators : List String :=
  ["<<=", ">>=", "||", "&&", "==", "!=", "<=", ">=", "<<", ">>", "+=", "-=", "*=", "/=", "%=",
   "&=", "|=", "^=", "=", "<", ">", "|", "^", "&", "+", "-", "*", "/", "%", "!", "~", "?", ":",
   "(", ")"]

/-- How loose an operator of two operands binds. -/
def looseness? : Token → Option Nat
  | .operator op =>
    if ["*", "/", "%"].contains op then some 0
    else if ["+", "-"].contains op then some 1
    else if ["<<", ">>"].contains op then some 2
    else if ["<", "<=", ">", ">="].contains op then some 3
    else if ["==", "!="].contains op then some 4
    else if op = "&" then some 5
    else if op = "^" then some 6
    else if op = "|" then some 7
    else none
  | _ => none

/-- The operator that a setting applies to the old value; nothing for a plain one. -/
def setting? : Token → Option (Option String)
  | .operator "=" => some none
  | .operator op =>
    if ["<<=", ">>=", "+=", "-=", "*=", "/=", "%=", "&=", "|=", "^="].contains op then
      some (some (String.ofList op.toList.dropLast))
    else none
  | _ => none

/-- The digits of a number, with the base that they are written in, and what follows them. -/
def takeDigits (cs : List Char) : Nat × List Char × List Char :=
  let isHex (c : Char) : Bool := (digitsValue? 16 [c]).isSome
  let isOctal (c : Char) : Bool := (digitsValue? 8 [c]).isSome
  let hex (rest : List Char) : Nat × List Char × List Char :=
    if rest.head?.any isHex then (16, rest.takeWhile isHex, rest.dropWhile isHex)
    else (8, ['0'], cs.drop 1)
  match cs with
  | '0' :: 'x' :: rest => hex rest
  | '0' :: 'X' :: rest => hex rest
  | '0' :: _ => (8, cs.takeWhile isOctal, cs.dropWhile isOctal)
  | _ => (10, cs.takeWhile Char.isDigit, cs.dropWhile Char.isDigit)

/-- The next token, and what follows it.  What has no meaning is not passed over. -/
def nextToken (cs : List Char) : Token × List Char :=
  let cs := cs.dropWhile fun c => c = ' ' || c = '\t' || c = '\n'
  let isNameChar (c : Char) : Bool := c.isAlphanum || c = '_'
  match cs with
  | [] => (.done, [])
  | c :: _ =>
    if c.isDigit then
      let (base, digits, rest) := takeDigits cs
      -- A number that is too large counts as the largest one.
      (.number (min ((digitsValue? base digits).getD 0) (Nat.pow 2 63 - 1)), rest)
    else if isNameChar c then
      (.name (String.ofList (cs.takeWhile isNameChar)), cs.dropWhile isNameChar)
    else
      match operators.find? fun op => op.toList.isPrefixOf cs with
      | some op => (.operator op, cs.drop op.length)
      | none => (.bad, cs)

/-! ### Evaluation -/

/-- An expression that is being evaluated. -/
structure State where
  lookup : String → Option String
  store : Store
  rest : List Char
  /-- The token after what has been evaluated. -/
  last : Token

/-- A step of an evaluation. -/
abbrev Eval := StateT State (Except Fault)

/-- Read a token. -/
def read : Eval Token := do
  let s ← get
  let (token, rest) := nextToken s.rest
  set { s with rest }
  return token

/-- Note the token that was read too far. -/
def leave (token : Token) : Eval Unit := modify fun s => { s with last := token }

/-- The value of a variable. -/
def variableValue (name : String) : Eval Int := do
  let s ← get
  valueOf s.lookup s.store name

mutual

/-- A number, a variable, an expression in brackets, or one of these after a sign.  `next` is the
token after `token`.  Without `live` nothing is set, no variable is read and no division fails. -/
def primary (fuel : Nat) (live : Bool) (token next : Token) : Eval Int :=
  match fuel with
  | 0 => throw .missingPrimary
  | fuel + 1 => do
    let signed (f : Int → Int) : Eval Int := do
      return wrap (f (← primary fuel live next (← read)))
    match token with
    | .number n => do
      leave next
      return n
    | .name name => do
      leave next
      if live then variableValue name else return 0
    | .operator "(" => do
      let a ← assignment fuel live next
      if (← get).last ≠ .operator ")" then throw .missingBracket
      leave (← read)
      return a
    | .operator "+" => signed id
    | .operator "-" => signed fun a => -a
    | .operator "!" => signed fun a => ofBool (a == 0)
    | .operator "~" => signed fun a => -a - 1
    | _ => throw .missingPrimary

/-- What follows a first operand and an operator, up to an operator that binds at least as loose
as a bound. -/
def operands (fuel : Nat) (live : Bool) (a : Int) (op : Token) (bound : Nat) : Eval Int :=
  match fuel with
  | 0 => throw .missingPrimary
  | fuel + 1 => do
    let token ← read
    let b ← primary fuel live token (← read)
    let own := (looseness? op).getD 0
    let b ← match looseness? (← get).last with
      | some n => if n < own then operands fuel live b (← get).last own else pure b
      | none => pure b
    let c ← match op with
      | .operator name => if live then apply name a b else pure b
      | _ => pure b
    match looseness? (← get).last with
    | some n => if n < bound then operands fuel live c (← get).last bound else return c
    | none => return c

/-- Operands joined by operators. -/
def joined (fuel : Nat) (live : Bool) (token next : Token) : Eval Int :=
  match fuel with
  | 0 => throw .missingPrimary
  | fuel + 1 => do
    let a ← primary fuel live token next
    let op := (← get).last
    if (looseness? op).isSome then operands fuel live a op 8 else return a

/-- Such expressions that all have to be true. -/
def conjunction (fuel : Nat) (live : Bool) (token next : Token) : Eval Int :=
  match fuel with
  | 0 => throw .missingPrimary
  | fuel + 1 => do
    let a ← joined fuel live token next
    if (← get).last ≠ .operator "&&" then return a
    else
      let token ← read
      let b ← conjunction fuel (live && a != 0) token (← read)
      return ofBool (a != 0 && b != 0)

/-- Such expressions of which one has to be true. -/
def disjunction (fuel : Nat) (live : Bool) (token next : Token) : Eval Int :=
  match fuel with
  | 0 => throw .missingPrimary
  | fuel + 1 => do
    let a ← conjunction fuel live token next
    if (← get).last ≠ .operator "||" then return a
    else
      let token ← read
      let b ← disjunction fuel (live && a == 0) token (← read)
      return ofBool (a != 0 || b != 0)

/-- A choice by a condition. -/
def choice (fuel : Nat) (live : Bool) (token next : Token) : Eval Int :=
  match fuel with
  | 0 => throw .missingPrimary
  | fuel + 1 => do
    let a ← disjunction fuel live token next
    if (← get).last ≠ .operator "?" then return a
    else
      let b ← assignment fuel (live && a != 0) (← read)
      if (← get).last ≠ .operator ":" then throw .missingColon
      let token ← read
      let c ← choice fuel (live && a == 0) token (← read)
      return if a != 0 then b else c

/-- An expression, or a variable that is set to one. -/
def assignment (fuel : Nat) (live : Bool) (token : Token) : Eval Int :=
  match fuel with
  | 0 => throw .missingPrimary
  | fuel + 1 => do
    let next ← read
    match token, setting? next with
    | .name name, some op => do
      let b ← assignment fuel live (← read)
      if !live then return b
      else
        let value ← match op with
          | none => pure b
          | some op => do
            let a ← variableValue name
            apply op a b
        modify fun s => { s with store := (name, toString value) :: s.store }
        return value
    | _, _ => choice fuel live token next

end

/-- The value of an expression, and the variables that it set, newest first. -/
def value (lookup : String → Option String) (source : List Char) : Except Fault (Int × Store) := do
  let body : Eval Int := do assignment (8 * source.length + 64) true (← read)
  let (a, s) ← body.run ⟨lookup, [], source, .done⟩
  if s.last = .done then return (a, s.store) else .error .missingEnd

end Outflow.Shell.Arithmetic
