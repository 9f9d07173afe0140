/-!
# Shell programs

The parts of a shell program.  Words are kept in pieces that remember whether they were quoted.
-/

namespace Outflow.Shell

mutual

/-- What is done with the value of a parameter. -/
inductive ParameterForm where
  | value
  | length
  /-- Another word if it is unset, or, with `orEmpty`, unset or empty. -/
  | default (orEmpty : Bool) (word : List Piece)
  /-- As above, and the parameter is set to that word. -/
  | assign (orEmpty : Bool) (word : List Piece)
  /-- An error if it is unset. -/
  | require (orEmpty : Bool) (word : List Piece)
  /-- Another word if it is set. -/
  | alternative (orEmpty : Bool) (word : List Piece)
  /-- Without the part at its front, or at its end, that a pattern fits. -/
  | strip (front longest : Bool) (pattern : List Piece)
  /-- Something that has no meaning. -/
  | unknown

/-- A piece of a word. -/
inductive Piece where
  | text (cs : List Char) (isQuoted : Bool)
  | parameter (name : List Char) (form : ParameterForm) (isQuoted : Bool)
  | output (body : Tree) (isQuoted : Bool)
  | arithmetic (word : List Piece) (isQuoted : Bool)

/-- How a file descriptor is redirected. -/
inductive Redirection where
  /-- Read a file; with `both` also write to it. -/
  | input (fd : Nat) (path : List Piece) (both : Bool)
  /-- Write to a file, at its end with `append`, whatever stands there with `clobber`. -/
  | output (fd : Nat) (path : List Piece) (append clobber : Bool)
  /-- Make a descriptor the same as another, or close it. -/
  | duplicate (fd : Nat) (source : List Piece)
  /-- Read a text that stands in the program. -/
  | here (fd : Nat) (text : List Piece)

/-- A command. -/
inductive Tree where
  | simple (assignments : List (List Char × List Piece)) (words : List (List Piece))
      (redirections : List Redirection)
  | pipeline (parts : List Tree)
  | negation (body : Tree)
  | conjunction (left right : Tree)
  | disjunction (left right : Tree)
  | sequence (left right : Tree)
  | background (body : Tree)
  | group (body : Tree) (redirections : List Redirection)
  | subshell (body : Tree) (redirections : List Redirection)
  | conditional (condition yes no : Tree) (redirections : List Redirection)
  /-- Repeat while the condition holds, or, with `negated`, while it does not. -/
  | loop (negated : Bool) (condition body : Tree) (redirections : List Redirection)
  /-- Repeat for each word; without words, for each argument of the shell. -/
  | each (name : List Char) (words : Option (List (List Piece))) (body : Tree)
      (redirections : List Redirection)
  | choice (word : List Piece) (arms : List (List (List Piece) × Tree))
      (redirections : List Redirection)
  | function (name : List Char) (body : Tree)
  /-- A command at a line of its text. -/
  | located (line : Nat) (body : Tree)
  | nothing

end

/-- A word. -/
abbrev Word := List Piece

end Outflow.Shell
