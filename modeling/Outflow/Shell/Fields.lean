import Outflow.Host.Utility.Basic
import Outflow.Shell.Pattern

/-!
# From words to fields

What is left to do when the parts of a word have been expanded: the text is cut into fields at
separators that came from an expansion, and a field that is a pattern is replaced by the paths
that it fits.
-/

namespace Outflow.Shell

/-- A part of an expanded word. -/
inductive Mark where
  /-- A character.  It may separate fields if it `splits`. -/
  | char (c : Char) (isQuoted : Bool) (splits : Bool)
  /-- The boundary between two arguments. -/
  | gap
  /-- Quotes, which make a field even with nothing between them. -/
  | quotes
  deriving DecidableEq, Repr

namespace Mark

/-- The marks of a text. -/
def ofText (cs : List Char) (isQuoted splits : Bool) : List Mark :=
  cs.map fun c => .char c isQuoted splits

/-- The text of marks, without separators. -/
def text (ms : List Mark) : List Char :=
  ms.filterMap fun | .char c _ _ => some c | _ => none

/-- The glyphs of marks. -/
def glyphs (ms : List Mark) : List Glyph :=
  ms.filterMap fun | .char c q _ => some ⟨c, q⟩ | _ => none

/-- A field that is being made, if it has begun, in reverse; and whether white space ended the
field before it. -/
structure Cutting where
  done : List (List Glyph)
  current : Option (List Glyph)
  afterSpace : Bool

/-- End the field that is being made. -/
def Cutting.cut (c : Cutting) (afterSpace : Bool) : Cutting :=
  match c.current with
  | some gs => ⟨gs.reverse :: c.done, none, afterSpace⟩
  | none => { c with afterSpace }

/-- One more mark. -/
def Cutting.step (separators : List Char) (c : Cutting) : Mark → Cutting
  | .gap => c.cut false
  | .quotes => { c with current := some (c.current.getD []), afterSpace := false }
  | .char ch isQuoted splits =>
    if splits && separators.contains ch then
      if ch.isWhitespace then if c.current.isSome then c.cut true else c
      else
        match c.current with
        | some _ => c.cut false
        | none =>
          if c.afterSpace then { c with afterSpace := false }
          else ⟨[] :: c.done, none, false⟩
    else { c with current := some (⟨ch, isQuoted⟩ :: c.current.getD []), afterSpace := false }

/-- Cut marks into fields. -/
def fields (separators : List Char) (ms : List Mark) : List (List Glyph) :=
  ((ms.foldl (Cutting.step separators) ⟨[], none, false⟩).cut false).done.reverse

end Mark

/-! ### Paths -/

/-- The names in a directory that fit a pattern.  Names that begin with a dot, and those of the
directory itself and of the one above it, must be asked for. -/
def fittingNames (files : Files) (place : List String) (name : List Glyph) : List String :=
  let dotted := name.head?.any fun g => g.char = '.'
  let names := (if dotted then [".", ".."] else []) ++ Utility.visibleNames files place dotted
  names.filter fun n => Pattern.fits name n.toList

/-- The paths that fit a pattern, one name after the other.  `text` is the path so far, `place`
where it leads. -/
def pathsFrom (files : Files) (text : String) (place : List String) :
    List (List Glyph) → List String
  | [] => [text]
  | name :: rest =>
    let plain := String.ofList ((Pattern.unescape name).map (·.char))
    let joined (n : String) : String := text ++ n ++ if rest.isEmpty then "" else "/"
    let walk (n : String) : Except IoError (List String) :=
      files.walk Files.maxLinks true place [n]
    if !Pattern.isSpecialText (Pattern.unescape name) then
      if rest.isEmpty ∧ plain ≠ "" then
        if (files.walk Files.maxLinks false place [plain]).isOk then [joined plain] else []
      else
        match walk plain with
        | .ok place => pathsFrom files (joined plain) place rest
        | .error _ => []
    else
      (fittingNames files place name).flatMap fun n =>
        if rest.isEmpty then [joined n]
        else
          match walk n with
          | .ok place =>
            if files.isDirectory place then pathsFrom files (joined n) place rest
            else []
          | .error _ => []

/-- The texts that a field stands for. -/
def expandPaths (files : Files) (dir : List String) (field : List Glyph) : List String :=
  let plain := String.ofList (field.map (·.char))
  if Pattern.isSpecialText (Pattern.unescape field) then
    let names := field.splitOnP (·.char = '/')
    let paths :=
      match names with
      | [] :: rest => if rest.isEmpty then [] else pathsFrom files "/" [] rest
      | names => pathsFrom files "" dir names
    if paths.isEmpty then [plain] else paths
  else [plain]

end Outflow.Shell
