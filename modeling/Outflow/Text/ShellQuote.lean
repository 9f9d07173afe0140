/-!
# Shell-quoted command lines

An argument vector written so that a shell would read it back: arguments are joined by single
spaces, and one that a shell could misread is put in single quotes.
-/

namespace Outflow.Text

/-- The characters that a shell reads as more than themselves. -/
def shellSpecial : List Char :=
  ['\n', '\'', '|', '&', ';', '<', '>', '(', ')', '$', '\x60', '\\', '"', ' ', '\t', '*', '?', '[',
   '#', '~', '=', '%']

/-- Inside single quotes only the quote itself needs care: it is written between two quoted
parts. -/
def shellQuotedChar (c : Char) : List Char :=
  if c = '\'' then ['\'', '\\', '\'', '\''] else [c]

/-- Whether an argument can stand without quotes. -/
def shellBare (s : String) : Bool := s.toList.all (!shellSpecial.contains ·) && !s.isEmpty

/-- One argument of a command line. -/
def shellQuote (s : String) : String :=
  if shellBare s then s
  else String.ofList ('\'' :: s.toList.flatMap shellQuotedChar ++ ['\''])

/-- A whole command line. -/
def shellJoin (args : List String) : String := " ".intercalate (args.map shellQuote)

end Outflow.Text
