/-!
# Permission bits

Reading and writing the permission bits of files: octal numbers, clauses such as `u+x,go-w`, and
the nine letters that show them.
-/

namespace Outflow.Mode

/-- Who a clause is about: the bits of owner, group and others. -/
def whoMask : Char → Option Nat
  | 'u' => some 0o4700
  | 'g' => some 0o2070
  | 'o' => some 0o1007
  | 'a' => some 0o7777
  | _ => none

/-- The bits that a letter gives to everybody. -/
def permissionBits (mode : Nat) (isDirectory : Bool) : Char → Option Nat
  | 'r' => some 0o444
  | 'w' => some 0o222
  | 'x' => some 0o111
  | 'X' => some (if isDirectory || mode &&& 0o111 != 0 then 0o111 else 0)
  | 's' => some 0o6000
  | 't' => some 0o1000
  | 'u' => some ((mode >>> 6 &&& 7) * 0o111)
  | 'g' => some ((mode >>> 3 &&& 7) * 0o111)
  | 'o' => some ((mode &&& 7) * 0o111)
  | _ => none

/-- Bits without others. -/
def without (a b : Nat) : Nat := a - (a &&& b)

/-- Carry out the operators of one clause. -/
def applyOperators (fuel who masked : Nat) (isDirectory : Bool) (mode : Nat) (cs : List Char) :
    Option Nat :=
  match fuel, cs with
  | 0, _ => none
  | _, [] => some mode
  | fuel + 1, op :: rest =>
    if op ≠ '+' ∧ op ≠ '-' ∧ op ≠ '=' then none
    else
      let letters := rest.takeWhile fun c => c ≠ '+' && c ≠ '-' && c ≠ '='
      match letters.mapM (permissionBits mode isDirectory) with
      | none => none
      | some bits =>
        let all := bits.foldl (· ||| ·) 0
        let wanted := without (all &&& who) masked
        let mode := match op with
          | '+' => mode ||| wanted
          | '-' => without mode wanted
          | _ => without mode (who &&& 0o777) ||| wanted
        applyOperators fuel who masked isDirectory mode (rest.drop letters.length)

/-- Carry out one clause. -/
def applyClause (umask : Nat) (isDirectory : Bool) (mode : Nat) (cs : List Char) : Option Nat :=
  let names := cs.takeWhile fun c => (whoMask c).isSome
  let who := (names.filterMap whoMask).foldl (· ||| ·) 0
  let rest := cs.drop names.length
  if rest.isEmpty then none
  -- A clause about nobody in particular spares the bits that new files do not get.
  else applyOperators (rest.length + 1) (if names.isEmpty then 0o7777 else who)
    (if names.isEmpty then umask else 0) isDirectory mode rest

/-- The bits that a text asks for. -/
def changed? (umask : Nat) (isDirectory : Bool) (mode : Nat) (text : String) : Option Nat :=
  let cs := text.toList
  if !cs.isEmpty && cs.all fun c => '0' ≤ c && c ≤ '7' then
    let n := cs.foldl (fun n c => n * 8 + (c.toNat - 48)) 0
    -- A short number leaves a directory two of its bits.
    let kept := if isDirectory && cs.length < 5 then mode &&& 0o6000 else 0
    if n ≤ 0o7777 then some (n ||| kept) else none
  else
    (cs.splitOn ',').foldl
      (fun mode? clause => mode?.bind fun mode => applyClause umask isDirectory mode clause)
      (some mode)

/-- The nine letters of some bits.  The letters for execution also show the three bits above. -/
def letters (mode : Nat) : String :=
  String.ofList ((List.range 9).map fun i =>
    let on := mode >>> (8 - i) &&& 1 == 1
    let special := mode >>> (11 - i / 3) &&& 1 == 1
    if i % 3 = 2 && special then
      let letter := if i = 8 then 't' else 's'
      if on then letter else letter.toUpper
    else if on then ['r', 'w', 'x'].getD (i % 3) '-' else '-')

/-- Bits in octal, with so many digits at least. -/
def octal (width n : Nat) : String :=
  let digits := Nat.toDigits 8 n
  String.ofList (List.replicate (width - digits.length) '0' ++ digits)

end Outflow.Mode
