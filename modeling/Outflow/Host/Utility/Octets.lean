import Outflow.Host.Mode
import Outflow.Host.Utility.Basic

/-!
# Programs that show and encode octets

Dumps of octets in several bases, and the encoding with sixty-four letters.
-/

namespace Outflow.Utility

/-! ### Dumps -/

/-- How a column of a dump shows the octets. -/
inductive DumpStyle where
  /-- A number of so many octets in a base, with a width. -/
  | number (size base width : Nat) (signed : Bool)
  | character
  | name
  deriving Repr

/-- Read the kinds of a dump, such as `x1` or `c`. -/
def readDumpStyles (fuel : Nat) (cs : List Char) : Option (List DumpStyle) :=
  match fuel, cs with
  | 0, _ => some []
  | _, [] => some []
  | fuel + 1, c :: rest =>
    let sized (base : Nat) (signed : Bool) : Option (List DumpStyle) :=
      let (size, rest) := match rest with
        | '1' :: rest => (1, rest)
        | '2' :: rest => (2, rest)
        | '4' :: rest => (4, rest)
        | '8' :: rest => (8, rest)
        | 'C' :: rest => (1, rest)
        | 'S' :: rest => (2, rest)
        | 'I' :: rest => (4, rest)
        | 'L' :: rest => (8, rest)
        | rest => (4, rest)
      let width := if signed then (toString (Nat.pow 2 (8 * size - 1))).length + 1
        else (Nat.toDigits base (Nat.pow 256 size - 1)).length
      (readDumpStyles fuel rest).map (.number size base width signed :: ·)
    match c with
    | 'x' => sized 16 false
    | 'o' => sized 8 false
    | 'u' => sized 10 false
    | 'd' => sized 10 true
    | 'c' => (readDumpStyles fuel rest).map (.character :: ·)
    | 'a' => (readDumpStyles fuel rest).map (.name :: ·)
    | _ => none

/-- The names of the first octets. -/
def octetNames : List String :=
  ["nul", "soh", "stx", "etx", "eot", "enq", "ack", "bel", "bs", "ht", "nl", "vt", "ff", "cr",
   "so", "si", "dle", "dc1", "dc2", "dc3", "dc4", "nak", "syn", "etb", "can", "em", "sub", "esc",
   "fs", "gs", "rs", "us", "sp"]

/-- An octet as a character or an escape. -/
def characterText (b : UInt8) : String :=
  match b with
  | 0 => "\\0"
  | 7 => "\\a"
  | 8 => "\\b"
  | 9 => "\\t"
  | 10 => "\\n"
  | 11 => "\\v"
  | 12 => "\\f"
  | 13 => "\\r"
  | b => if 32 ≤ b && b < 127 then String.singleton (Char.ofNat b.toNat) else Mode.octal 3 b.toNat

/-- The size and the width of a column. -/
def DumpStyle.size : DumpStyle → Nat × Nat
  | .number size _ width _ => (size, width)
  | _ => (1, 3)

/-- The text for some octets, the lowest first. -/
def DumpStyle.text (s : DumpStyle) (bytes : Bytes) : String :=
  let n := bytes.reverse.foldl (fun n b => n * 256 + b.toNat) 0
  match s with
  | .character => characterText (bytes.headD 0)
  | .name =>
    let low := n % 128
    if low = 127 then "del" else (octetNames[low]?).getD (String.singleton (Char.ofNat low))
  | .number size base width signed =>
    let half := Nat.pow 2 (8 * size - 1)
    if signed then
      if half ≤ n then s!"-{2 * half - n}" else toString n
    else
      let digits := Nat.toDigits base n
      if base = 10 then String.ofList digits
      else String.ofList (List.replicate (width - digits.length) '0' ++ digits)

/-- Octets in groups of a size, the last one filled up with zeros. -/
def groupsOf (size : Nat) (fuel : Nat) (bytes : Bytes) : List Bytes :=
  match fuel with
  | 0 => []
  | fuel + 1 =>
    if bytes.isEmpty then []
    else
      let group := bytes.take size
      (group ++ List.replicate (size - group.length) 0) :: groupsOf size fuel (bytes.drop size)

/-- How a dump is laid out. -/
structure Dump where
  base : Option Nat
  styles : List DumpStyle
  showsAll : Bool
  perLine : Nat

/-- The text of an offset. -/
def Dump.offset (d : Dump) (n : Nat) : String :=
  match d.base with
  | none => ""
  | some base =>
    let width := if base = 16 then 6 else 7
    let digits := Nat.toDigits base n
    String.ofList (List.replicate (width - digits.length) '0' ++ digits)

/-- The lines for a block of octets. -/
def Dump.block (d : Dump) (offset : Nat) (bytes : Bytes) : List String :=
  -- All columns are as wide as the widest needs them to be, for as many octets.
  let unit := (d.styles.map fun s => s.size.1).foldl max 1
  let wide := (d.styles.map fun s => (s.size.2 + 1) * (unit / s.size.1)).foldl max 0
  (d.styles.zip (List.range d.styles.length)).map fun (s, i) =>
    let (size, width) := s.size
    let field := wide * size / unit
    let cells := (groupsOf size (bytes.length + 1) bytes).map fun g =>
      padLeft field (padLeft width (s.text g))
    let label := d.offset offset
    (if i = 0 then label else "".pushn ' ' label.length) ++ String.join cells

/-- The lines for all octets; blocks that repeat the one before are shown by a star. -/
def Dump.lines (d : Dump) (fuel offset : Nat) (previous : Option Bytes) (starred : Bool)
    (bytes : Bytes) : List String :=
  match fuel with
  | 0 => []
  | fuel + 1 =>
    if bytes.isEmpty then if d.base.isSome then [d.offset offset] else []
    else
      let block := bytes.take d.perLine
      let rest := bytes.drop d.perLine
      let next := offset + block.length
      if !d.showsAll && previous = some block && block.length = d.perLine then
        (if starred then [] else ["*"]) ++ d.lines fuel next previous true rest
      else d.block offset block ++ d.lines fuel next (some block) false rest

/-- Show octets. -/
def od (o : Occasion) : Effect :=
  withFlags o 1 "A:t:cbxovj:N:w::adis" [("address-radix", 'A'), ("format", 't'),
      ("skip-bytes", 'j'), ("read-bytes", 'N'), ("output-duplicates", 'v'), ("width", 'w')]
  fun flags =>
    let styles := flags.options.map fun (c, value) =>
      match c with
      | 't' => readDumpStyles (value.length + 1) value.toList
      | 'c' => some [.character]
      | 'a' => some [.name]
      | 'b' => some [.number 1 8 3 false]
      | 'x' => some [.number 2 16 4 false]
      | 'o' => some [.number 2 8 6 false]
      | 'd' => some [.number 2 10 5 false]
      | 's' => some [.number 2 10 6 true]
      | 'i' => some [.number 4 10 11 true]
      | _ => some []
    let bad := (flags.values 't').find? fun v => (readDumpStyles (v.length + 1) v.toList).isNone
    match bad with
    | some text =>
      complain o 1 s!"invalid character '{text.take 1}' in type string {quoted text}"
    | none =>
      let styles := (styles.filterMap id).flatten
      let styles := if styles.isEmpty then [.number 2 8 6 false] else styles
      let base := match flags.value? 'A' with
        | some "n" => none
        | some "x" => some 16
        | some "d" => some 10
        | _ => some 8
      let paths := sources flags.operands
      let g := gather o paths
      let skip := ((flags.value? 'j').bind readSize).getD 0
      let flow := g.flow.drop skip
      let bytes := match (flags.value? 'N').bind readSize with
        | some n => flow.take n
        | none => flow.toBytes
      let perLine := ((flags.value? 'w').map fun w => (readNat w).getD 32).getD 16
      let d : Dump := { base, styles, showsAll := flags.has 'v', perLine := max perLine 1 }
      let ls := d.lines (bytes.length + 2) skip none false bytes
      { finish o (if g.complaints.isEmpty then 0 else 1)
          (g.complaints ++ [.out (.ofRaw (String.join (ls.map (· ++ "\n"))))]) with
        rest := remaining o paths }

/-! ### Sixty-four letters -/

/-- The letters. -/
def letters64 : List Char :=
  "ABCDEFGHIJKLMNOPQRSTUVWXYZabcdefghijklmnopqrstuvwxyz0123456789+/".toList

/-- Encode octets, three at a time. -/
def encode64 : Bytes → List Char
  | [] => []
  | [a] =>
    let n := a.toNat * 16
    [letter (n / 64), letter n, '=', '=']
  | [a, b] =>
    let n := (a.toNat * 256 + b.toNat) * 4
    [letter (n / 4096), letter (n / 64), letter n, '=']
  | a :: b :: c :: rest =>
    let n := (a.toNat * 256 + b.toNat) * 256 + c.toNat
    letter (n / 262144) :: letter (n / 4096) :: letter (n / 64) :: letter n :: encode64 rest
where
  /-- The letter for the lowest six bits. -/
  letter (n : Nat) : Char := letters64.getD (n % 64) 'A'

/-- Decode letters, four at a time, and tell whether all of them were right. -/
def decode64 : List Char → Bytes × Bool
  | a :: b :: c :: d :: rest =>
    let value (c : Char) : Option Nat := letters64.findIdx? (· = c)
    match value a, value b, value c, value d with
    | some w, some x, some y, some z =>
      let n := ((w * 64 + x) * 64 + y) * 64 + z
      let (more, ok) := decode64 rest
      (UInt8.ofNat (n / 65536) :: UInt8.ofNat (n / 256) :: UInt8.ofNat n :: more, ok)
    | some w, some x, some y, none =>
      let n := (w * 64 + x) * 64 + y
      ([UInt8.ofNat (n / 1024), UInt8.ofNat (n / 4)], d == '=' && rest.isEmpty)
    | some w, some x, none, _ =>
      ([UInt8.ofNat ((w * 64 + x) / 16)], c == '=' && d == '=' && rest.isEmpty)
    | _, _, _, _ => ([], false)
  | [] => ([], true)
  | _ => ([], false)

/-- Characters in lines of a width. -/
def wrapped (width : Nat) (fuel : Nat) (cs : List Char) : List Char :=
  match fuel with
  | 0 => []
  | fuel + 1 =>
    if cs.isEmpty then []
    else cs.take width ++ '\n' :: wrapped width fuel (cs.drop width)

/-- Encode and decode with sixty-four letters. -/
def base64 (o : Occasion) : Effect :=
  withFlags o 1 "diw:" [("decode", 'd'), ("ignore-garbage", 'i'), ("wrap", 'w')] fun flags =>
    let path := flags.operands.headD "-"
    match openFile o path with
    | .error e => complain o 1 (fileFault path e)
    | .ok flow =>
      let bytes := flow.toBytes
      let rest := remaining o [path]
      if flags.has 'd' then
        let cs := (Bytes.toRaw bytes).toList.filter fun c =>
          c ≠ '\n' && (!flags.has 'i' || letters64.contains c || c = '=')
        let (out, ok) := decode64 cs
        let notes := if ok then [] else [grumble o "invalid input"]
        { finish o (if ok then 0 else 1) (.out (.ofBytes out) :: notes) with rest }
      else
        let width := ((flags.value? 'w').bind readNat).getD 76
        let cs := encode64 bytes
        let text := if width = 0 then cs else wrapped width (cs.length + 1) cs
        { print o (String.ofList text) with rest }

end Outflow.Utility
