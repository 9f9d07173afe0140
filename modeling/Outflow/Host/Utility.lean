import Outflow.Host.Utility.Checksum
import Outflow.Host.Utility.Condition
import Outflow.Host.Utility.Date
import Outflow.Host.Utility.Diff
import Outflow.Host.Utility.Edit
import Outflow.Host.Utility.Join
import Outflow.Host.Utility.Listing
import Outflow.Host.Utility.Number
import Outflow.Host.Utility.Octets
import Outflow.Host.Utility.Search
import Outflow.Host.Utility.Sort
import Outflow.Host.Utility.Split
import Outflow.Host.Utility.Surroundings
import Outflow.Host.Utility.Test
import Outflow.Host.Utility.Text
import Outflow.Host.Utility.Tree

/-!
# Small programs

The small programs of a machine by their names.
-/

namespace Outflow.Utility

/-- The small programs that start no other ones. -/
def table : List (String × (Occasion → Effect)) :=
  [("true", (silent · 0)), ("false", (silent · 1)), ("echo", echo), ("printf", printf),
   ("cat", cat), ("head", head), ("tail", tail), ("tee", tee), ("tac", tac), ("rev", rev),
   ("nl", nl), ("fold", fold), ("paste", paste), ("cut", cut), ("tr", tr), ("wc", wc),
   ("expand", expand), ("unexpand", unexpand), ("join", join), ("split", split),
   ("sort", sort), ("uniq", uniq), ("comm", comm), ("grep", grep 'G'), ("egrep", grep 'E'),
   ("fgrep", grep 'F'), ("sed", sed), ("seq", seq), ("yes", yes), ("expr", expr),
   ("factor", factor), ("sleep", sleep), ("pwd", pwd), ("ls", ls), ("basename", basename),
   ("dirname", dirname), ("readlink", readlink), ("realpath", realpath), ("stat", stat),
   ("touch", touch), ("mkdir", mkdir), ("mkfifo", mkfifo), ("rmdir", rmdir), ("rm", rm),
   ("cp", cp), ("mv", mv), ("ln", ln), ("link", link), ("unlink", unlink), ("mktemp", mktemp), ("chmod", chmod),
   ("truncate", truncate), ("dd", dd), ("cmp", cmp), ("diff", diff), ("find", find), ("od", od),
   ("base64", base64), ("test", test), ("[", bracket), ("printenv", printenv), ("id", id'),
   ("whoami", whoami), ("uname", uname), ("tty", tty), ("groups", groups), ("arch", arch),
   ("date", date), ("logname", logname), ("sync", sync), ("which", which)] ++
  digestPrograms

/-- A small program by its name. -/
def byName? (name : String) : Option (Occasion → Effect) :=
  (table.find? (·.1 = name)).map (·.2)

/-- The small programs that write while they read, or that need not read to the end. -/
def streams : List String :=
  ["cat", "tee", "head", "tr", "cut", "sed", "grep", "egrep", "fgrep", "nl", "fold", "expand",
   "unexpand", "rev", "uniq", "paste", "od", "base64", "dd", "cmp"]

/-- The small programs that read the files that they are told. -/
def openers : List String :=
  streams ++ ["tail", "tac", "wc", "join", "split", "sort", "comm", "diff", "cp"] ++
    digestPrograms.map (·.1)

/-- The small programs that write what they have read without delay. -/
def prompt : List String := ["cat", "tee"]

/-- What a small program says when it cannot write its output, and the status that it ends
with. -/
def writeFault (name : String) (e : IoError) : List String × Nat :=
  let text := errorText e
  let common := s!"write error: {text}"
  match name with
  | "sort" => ([s!"fflush failed: 'standard output': {text}", "write error"], 2)
  | "sed" => ([if e = .os 9 then s!"couldn't close stdout: {text}"
      else s!"couldn't flush stdout: {text}"], 4)
  | "cat" => ([if e = .os 9 then s!"standard output: {text}" else common], 1)
  | "dd" => ([s!"writing to 'standard output': {text}"], 1)
  | "yes" => ([s!"standard output: {text}"], 1)
  | "cmp" => ([s!"standard output: {text}"], 2)
  | "find" => ([s!"'standard output': {text}", common], 1)
  | "ls" => ([common], 2)
  | "grep" => ([common], 2)
  | "egrep" => ([common], 2)
  | "fgrep" => ([common], 2)
  | "printenv" => ([common], 2)
  | "expr" => ([common], 3)
  | "tty" => ([common], 3)
  | _ => ([common], 1)

/-- The small programs that start others. -/
def starters : List String :=
  ["sh", "dash", "env", "timeout", "nice", "nohup", "setsid", "stdbuf", "xargs"]

/-- The names of all small programs. -/
def names : List String := starters ++ table.map (·.1)

end Outflow.Utility
