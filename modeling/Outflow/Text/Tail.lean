import Outflow.Text.Bytes

/-!
# The last lines of an output
-/

namespace Outflow

namespace Bytes

/-- The characters of a text without the newlines at its end. -/
def withoutFinalNewlines (cs : List Char) : List Char :=
  (cs.reverse.dropWhile (· = '\n')).reverse

/-- The last `n` lines of the text shown for some octets, without a newline at the end.
Newlines at the end of the text begin no line. -/
def tailLines (bs : Bytes) (n : Nat) : String :=
  let body := withoutFinalNewlines (text bs).toList
  if body = [] ∨ n = 0 then ""
  else
    let lines := body.splitOn '\n'
    "\n".intercalate ((lines.drop (lines.length - n)).map String.ofList)

end Bytes

end Outflow
