import Outflow.Host.Utility.Basic

/-!
# The program that cuts a file into files

Parts of a number of lines or octets, or a number of parts.  Their names are a text with letters
or digits that count up.
-/

namespace Outflow.Utility

/-- How a file is cut. -/
inductive Cutting where
  | lines (n : Nat)
  | octets (n : Nat)
  /-- As many whole lines as have room in so many octets. -/
  | room (n : Nat)
  | parts (n : Nat)
  /-- A number of parts of whole lines. -/
  | lineParts (n : Nat)

/-- Lists of a length.  Fuel is the length of the list. -/
def cutAt {α : Type} (size fuel : Nat) (xs : List α) : List (List α) :=
  match fuel with
  | 0 => []
  | fuel + 1 => if xs.isEmpty then [] else xs.take size :: cutAt size fuel (xs.drop size)

/-- Lines put together while they have room. -/
def packLines (room : Nat) (lines : List Bytes) : List Bytes :=
  let step (done : List Bytes) (line : Bytes) : List Bytes :=
    match done with
    | part :: others =>
      if part.length + line.length ≤ room then (part ++ line) :: others else line :: done
    | [] => [line]
  let pieces := lines.flatMap fun line => cutAt room line.length line
  (pieces.foldl step []).reverse

/-- Octets in a number of parts, the last of which takes what is left over. -/
def equalParts (n : Nat) (bytes : Bytes) : List Bytes :=
  let size := bytes.length / n
  (List.range n).map fun i =>
    let rest := bytes.drop (i * size)
    if i + 1 = n then rest else rest.take size

/-- The same, but a line belongs to the part in which it begins. -/
def equalLineParts (n : Nat) (bytes : Bytes) : List Bytes :=
  let size := max (bytes.length / n) 1
  let placed := (Flow.lines bytes).foldl
    (fun (acc : List (Nat × Bytes) × Nat) line =>
      (acc.1 ++ [(min (acc.2 / size) (n - 1), line)], acc.2 + line.length))
    ([], 0)
  (List.range n).map fun i => (placed.1.filterMap fun (j, line) =>
    if j = i then some line else none).flatten

/-- The parts of some octets. -/
def Cutting.apply (c : Cutting) (bytes : Bytes) : List Bytes :=
  match c with
  | .lines n =>
    let lines := Flow.lines bytes
    (cutAt n lines.length lines).map List.flatten
  | .octets n => cutAt n bytes.length bytes
  | .room n => packLines n (Flow.lines bytes)
  | .parts n => equalParts n bytes
  | .lineParts n => equalLineParts n bytes

/-- The text of a number in letters or digits of some count. -/
def countedName (alphabet : List Char) (width n : Nat) : String :=
  String.ofList ((List.range width).map fun i =>
    alphabet.getD (n / Nat.pow alphabet.length (width - 1 - i) % alphabet.length) 'a')

/-- Read how to cut, or what is wrong with that. -/
def readCutting (flags : Flags) : Except String Cutting :=
  let sized (what text : String) (make : Nat → Cutting) : Except String Cutting :=
    match readSize text with
    | some 0 => .error s!"invalid number of {what}: {quoted text}"
    | some n => .ok (make n)
    | none => .error s!"invalid number of {what}: {quoted text}"
  match flags.last? ['l', 'b', 'C', 'n'] with
  | some 'b' => sized "bytes" ((flags.value? 'b').getD "") .octets
  | some 'C' => sized "bytes" ((flags.value? 'C').getD "") .room
  | some 'n' =>
    let text := (flags.value? 'n').getD ""
    match text.toList with
    | 'l' :: '/' :: digits => sized "chunks" (String.ofList digits) .lineParts
    | _ => sized "chunks" text .parts
  | some _ => sized "lines" ((flags.value? 'l').getD "") .lines
  | none => .ok (.lines 1000)

/-- Cut a file into files. -/
def split (o : Occasion) : Effect :=
  withFlags o 1 "l:b:C:n:a:deuA:V"
    [("lines", 'l'), ("bytes", 'b'), ("line-bytes", 'C'), ("number", 'n'), ("suffix-length", 'a'),
      ("numeric-suffixes", 'd'), ("elide-empty-files", 'e'), ("additional-suffix", 'A'),
      ("verbose", 'V')]
    fun flags =>
      match readCutting flags, flags.operands with
      | .error message, _ => complain o 1 message
      | .ok _, _ :: _ :: extra :: _ => misuse o 1 s!"extra operand {quoted extra}"
      | .ok cutting, operands =>
        let path := operands.headD "-"
        let front := operands.getD 1 "x"
        match openFile o path with
        | .error e => complain o 1 s!"cannot open {quoted path} for reading: {errorText e}"
        | .ok flow =>
          let parts := cutting.apply flow.toBytes
          let parts := if flags.has 'e' then parts.filter (!·.isEmpty) else parts
          let alphabet := if flags.has 'd' then "0123456789".toList
            else "abcdefghijklmnopqrstuvwxyz".toList
          let width := ((flags.value? 'a').bind readNat).getD 2
          let ending := (flags.value? 'A').getD ""
          let named := (List.range parts.length).zip parts |>.map fun (i, part) =>
            (front ++ countedName alphabet width i ++ ending, part)
          let p := named.foldl
            (fun (p : Progressing) (name, part) =>
              match openTarget o p.files name with
              | .ok (.file found) =>
                let said : List Piece :=
                  if flags.has 'V' then [.out (.ofRaw s!"creating file {quoted name}\n")] else []
                { p with files := store o p.files found false part, pieces := said ++ p.pieces }
              | .ok _ => p
              | .error e =>
                { p with pieces := grumble o (fileFault name e) :: p.pieces, bad := true })
            ⟨o.files, [], false⟩
          { finish o (if p.bad then 1 else 0) p.pieces.reverse with
            files := p.files, rest := remaining o [path] }

end Outflow.Utility
