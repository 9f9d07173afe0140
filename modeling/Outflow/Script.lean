import Outflow.Outcome

/-!
# Scripted runs

A `Script` stands in for the operating system when a caller of this library is tried out: it
answers each command with a prepared response and remembers what was asked.

The earliest expectation that fits a command decides it, also when its answers are used up: a
command never falls through to a later expectation.
-/

namespace Outflow

/-- What can be asked of arguments, without a matcher of one's own. -/
inductive ArgumentPattern where
  | exactly (arguments : List String)
  | beginsWith (arguments : List String)
  | count (n : Nat)
  deriving DecidableEq, Repr

/-- Whether some arguments have a pattern. -/
def ArgumentPattern.fits : ArgumentPattern → List String → Bool
  | exactly as, given => given = as
  | beginsWith as, given => as.isPrefixOf given
  | count n, given => given.length = n

/-- What a scripted program does. -/
structure Response where
  exitCode : Int32
  stdout : Bytes
  stderr : Bytes
  /-- If set, the program cannot even be started. -/
  spawnError : Option IoErrorKind
  deriving DecidableEq

/-- The outcome of a command that a response is given to. -/
def Response.outcome (r : Response) (c : Command) : Outcome :=
  match r.spawnError with
  | some kind => .error (.spawn c.args (.plain kind))
  | none => .ofExit c.args r.exitCode r.stdout r.stderr (.ofMillis 10)

/-- A command that is expected, and how it is answered. -/
structure Expectation where
  program : String
  /-- If set, what accepts the arguments after the program name. -/
  matcher : Option (List String → Bool)
  response : Response
  /-- How many commands the response is good for; any number if unset. -/
  limit : Option Nat
  /-- How many commands this expectation has decided. -/
  decided : Nat

namespace Expectation

/-- Any run of a program, answered by success without output. -/
def start (program : String) : Expectation := ⟨program, none, ⟨0, [], [], none⟩, none, 0⟩

/-- One detail of an expectation. -/
inductive Detail where
  | matcher (accepts : List String → Bool)
  | stdout (bytes : Bytes)
  | stderr (bytes : Bytes)
  | exitCode (code : Int32)
  | success
  | spawnError (kind : IoErrorKind)
  | limit (n : Nat)

/-- The detail that accepts the arguments with a pattern. -/
def Detail.pattern (p : ArgumentPattern) : Detail := .matcher p.fits

/-- Set a detail; a later one replaces an earlier one of its sort. -/
def add (e : Expectation) : Detail → Expectation
  | .matcher accepts => { e with matcher := some accepts }
  | .stdout bytes => { e with response.stdout := bytes }
  | .stderr bytes => { e with response.stderr := bytes }
  | .exitCode code => { e with response.exitCode := code }
  | .success => { e with response.exitCode := 0 }
  | .spawnError kind => { e with response.spawnError := some kind }
  | .limit n => { e with limit := some n }

/-- Whether an expectation decides a command. -/
def fits (e : Expectation) (c : Command) : Bool :=
  e.program = c.program && e.matcher.all (· c.arguments)

/-- The answer of an expectation to the command that it is the `n`th to decide. -/
def answer (e : Expectation) (c : Command) (n : Nat) : Outcome :=
  if e.limit.any (· < n) then
    .error (.unexpected
      s!"Command '{c.program}' called {n} times, expected {e.limit.getD 0}")
  else e.response.outcome c

/-- An expectation that has decided one command more. -/
def counted (e : Expectation) : Expectation := { e with decided := e.decided + 1 }

/-- Until its limit is passed, an expectation gives its response. -/
theorem answer_of_le {e : Expectation} {n : Nat} (c : Command)
    (h : ∀ limit, e.limit = some limit → n ≤ limit) : e.answer c n = e.response.outcome c := by
  cases hlimit : e.limit with
  | none => simp [answer, hlimit]
  | some limit =>
    have hle : ¬ limit < n := Nat.not_lt.2 (h limit hlimit)
    simp [answer, hlimit, hle]

/-- After that it tells how often it has been called. -/
theorem answer_of_lt {e : Expectation} {limit n : Nat} (c : Command) (hlimit : e.limit = some limit)
    (h : limit < n) :
    e.answer c n =
      .error (.unexpected s!"Command '{c.program}' called {n} times, expected {limit}") := by
  simp [answer, hlimit, h]

end Expectation

/-- Expectations in the order in which they were registered, and the commands run so far. -/
structure Script where
  expectations : List Expectation
  history : List Command

namespace Script

/-- Nothing is expected and nothing was run. -/
def empty : Script := ⟨[], []⟩

/-- Register an expectation, after all others. -/
def expect (s : Script) (e : Expectation) : Script :=
  { s with expectations := s.expectations ++ [e] }

/-- The answer of the earliest expectation that fits a command, and the expectations after it. -/
def decide (c : Command) : List Expectation → Option Outcome × List Expectation
  | [] => (none, [])
  | e :: rest =>
    if e.fits c then (some (e.answer c (e.decided + 1)), e.counted :: rest)
    else
      let (answer, rest) := decide c rest
      (answer, e :: rest)

/-- Run a command.  It is remembered whatever the answer. -/
def run (s : Script) (c : Command) : Outcome × Script :=
  let (answer, expectations) := decide c s.expectations
  (answer.getD (.error (.unexpected s!"No expectation found for command: {c.display}")),
    ⟨expectations, s.history ++ [c]⟩)

/-- How many commands of a program were run. -/
def callCount (s : Script) (program : String) : Nat :=
  s.history.countP (·.program = program)

/-- Whether a program was run that many times. -/
def calledTimes (s : Script) (program : String) (times : Nat) : Bool :=
  s.callCount program = times

/-- The first expectation that fits decides. -/
theorem decide_fst (c : Command) (es : List Expectation) :
    (decide c es).1 = (es.find? (·.fits c)).map fun e => e.answer c (e.decided + 1) := by
  induction es with
  | nil => rfl
  | cons e es ih =>
    by_cases h : e.fits c = true
    · simp [decide, h]
    · simp [decide, h, ih]

/-- It is counted, and the others stay as they are. -/
theorem decide_snd (c : Command) (es : List Expectation) :
    (decide c es).2 = match es.findIdx? (·.fits c) with
      | none => es
      | some i => es.modify i Expectation.counted := by
  induction es with
  | nil => rfl
  | cons e es ih =>
    by_cases h : e.fits c = true
    · simp [decide, List.findIdx?_cons, h]
    · simp only [decide, h, ih]
      cases hfirst : es.findIdx? (·.fits c) <;> simp [List.findIdx?_cons, h, hfirst]

/-- What a command is answered, by the first expectation that fits it. -/
theorem run_fst (s : Script) (c : Command) :
    (s.run c).1 = match s.expectations.find? (·.fits c) with
      | some e => e.answer c (e.decided + 1)
      | none => .error (.unexpected s!"No expectation found for command: {c.display}") := by
  have hrun : (s.run c).1 = (decide c s.expectations).1.getD
      (.error (.unexpected s!"No expectation found for command: {c.display}")) := rfl
  rw [hrun, decide_fst]
  cases s.expectations.find? (·.fits c) <;> rfl

/-- Every command that is run is remembered, and none before it is forgotten. -/
@[simp] theorem history_run (s : Script) (c : Command) :
    (s.run c).2.history = s.history ++ [c] := rfl

/-- Registering an expectation forgets no command. -/
@[simp] theorem history_expect (s : Script) (e : Expectation) :
    (s.expect e).history = s.history := rfl

end Script

end Outflow
