/-!
# The options of small programs

Options come before or between the operands of a program: letters after a hyphen, which may
stand together, and words after two hyphens, which may be cut short as long as they stay unique.
After two hyphens alone there are only operands.
-/

namespace Outflow

/-- What an option wants to have. -/
inductive Demand where
  | nothing
  | value
  /-- A value only if it stands in the same argument. -/
  | perhaps
  deriving DecidableEq, Repr

/-- The options of a program. -/
structure Grammar where
  /-- The letters; one that wants a value has a colon after it, one that may have one two. -/
  letters : List Char
  /-- The words, each with the letter that means the same. -/
  words : List (String × Char)
  /-- Whether options may follow operands. -/
  permutes : Bool

/-- The options and operands that a program was given. -/
structure Flags where
  /-- Options in order; one without a value has an empty one. -/
  options : List (Char × String)
  operands : List String

namespace Grammar

/-- What a letter wants; nothing if there is no such option. -/
def demand? (g : Grammar) (c : Char) : Option Demand :=
  match g.letters.dropWhile (· ≠ c) with
  | _ :: ':' :: ':' :: _ => if c = ':' then none else some .perhaps
  | _ :: ':' :: _ => if c = ':' then none else some .value
  | _ :: _ => if c = ':' then none else some .nothing
  | [] => none

/-- An option in front of others. -/
def prepend (option : Char × String) (f : Flags) : Flags :=
  { f with options := option :: f.options }

/-- Read letters that stand together.  `next` is the argument after them, if there is one, and
`go` reads on, with or without it. -/
def readLetters (g : Grammar) (next : Option String) (go : Bool → Except String Flags) :
    List Char → Except String Flags
  | [] => go false
  | c :: cs =>
    let text := String.ofList cs
    match g.demand? c with
    | none => .error s!"invalid option -- '{String.singleton c}'"
    | some .nothing => (readLetters g next go cs).map (prepend (c, ""))
    | some .perhaps => (go false).map (prepend (c, text))
    | some .value =>
      if !cs.isEmpty then (go false).map (prepend (c, text))
      else
        match next with
        | some value => (go true).map (prepend (c, value))
        | none =>
          .error s!"option requires an argument -- '{String.singleton c}'"

/-- The words that a text may stand for. -/
def candidates (g : Grammar) (text : List Char) : List (String × Char) :=
  match g.words.filter fun (word, _) => word.toList = text with
  | [] => g.words.filter fun (word, _) => text.isPrefixOf word.toList
  | exact => exact

/-- Read a word after two hyphens. -/
def readWord (g : Grammar) (next : Option String) (go : Bool → Except String Flags)
    (text : List Char) : Except String Flags :=
  let name := text.takeWhile (· ≠ '=')
  let value? := if name.length < text.length then
    some (String.ofList (text.drop (name.length + 1))) else none
  match g.candidates name with
  | [] => .error s!"unrecognized option '--{String.ofList text}'"
  | (word, c) :: others =>
    if others.any (·.2 ≠ c) then
      let all := String.join (((word, c) :: others).map fun (w, _) => s!" '--{w}'")
      .error s!"option '--{String.ofList text}' is ambiguous; possibilities:{all}"
    else
      match (g.demand? c).getD .nothing, value?, next with
      | .nothing, some _, _ =>
        .error s!"option '--{word}' doesn't allow an argument"
      | .nothing, none, _ => (go false).map (prepend (c, ""))
      | .perhaps, value?, _ => (go false).map (prepend (c, value?.getD ""))
      | .value, some value, _ => (go false).map (prepend (c, value))
      | .value, none, some value => (go true).map (prepend (c, value))
      | .value, none, none =>
        .error s!"option '--{word}' requires an argument"

/-- Read the arguments of a program. -/
def read (g : Grammar) : List String → Except String Flags
  | [] => .ok ⟨[], []⟩
  | arg :: rest =>
    let go (skip : Bool) : Except String Flags :=
      if skip then
        match rest with
        | [] => .ok ⟨[], []⟩
        | _ :: rest' => read g rest'
      else read g rest
    match arg.toList with
    | ['-', '-'] => .ok ⟨[], rest⟩
    | '-' :: '-' :: text => g.readWord rest.head? go text
    | '-' :: c :: cs => g.readLetters rest.head? go (c :: cs)
    | _ =>
      if g.permutes then (read g rest).map fun f => { f with operands := arg :: f.operands }
      else .ok ⟨[], arg :: rest⟩

end Grammar

namespace Flags

/-- Whether an option was given. -/
def has (f : Flags) (c : Char) : Bool := f.options.any (·.1 = c)

/-- The value of an option; the last one counts. -/
def value? (f : Flags) (c : Char) : Option String :=
  (f.options.reverse.find? (·.1 = c)).map (·.2)

/-- The values of an option, in order. -/
def values (f : Flags) (c : Char) : List String :=
  f.options.filterMap fun (d, v) => if d = c then some v else none

/-- The last of some options that was given. -/
def last? (f : Flags) (cs : List Char) : Option Char :=
  (f.options.reverse.find? fun (c, _) => cs.contains c).map (·.1)

end Flags

end Outflow
