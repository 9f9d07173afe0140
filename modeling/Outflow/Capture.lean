import Outflow.LineBuffer
import Outflow.Log

/-!
# What is kept of one stream

A `Capture` records the chunks of one stream.  It keeps their octets, all of them or as many
as its limit allows, and, when lines are to be forwarded, puts lines together as they complete.

A limit either drops the oldest octets or refuses the chunk that would pass it.  Every operation
gives the capture that it leaves, a `record` whose chunk is refused as well.
-/

namespace Outflow

/-- What to do with output beyond a limit. -/
inductive OverflowStrategy where
  /-- Keep the most recent output. -/
  | dropOldest
  /-- Refuse the output, which ends the run. -/
  | fail
  deriving DecidableEq, Repr

/-- The name of a strategy in a configuration file. -/
def OverflowStrategy.name : OverflowStrategy → String
  | dropOldest => "drop_oldest"
  | fail => "fail"

/-- The strategy of a name. -/
def OverflowStrategy.ofName? (s : String) : Option OverflowStrategy :=
  [dropOldest, fail].find? (·.name = s)

/-- A bound on what is kept of each stream. -/
structure CaptureLimit where
  maxBytes : UInt64
  strategy : OverflowStrategy
  deriving DecidableEq, Repr

/-- A stream that passed a limit which refuses to drop anything. -/
structure Overflow where
  stream : Stream
  maxBytes : UInt64
  deriving DecidableEq, Repr

/-- The wording of an overflow. -/
def Overflow.message (o : Overflow) : String :=
  s!"{o.stream.name} exceeded the capture limit of {o.maxBytes} bytes"

/-- Something a run lets out while it is going on. -/
inductive Emission where
  /-- A line of output, forwarded. -/
  | line (stream : Stream) (text : String)
  /-- An entry of the log.  Beside forwarded lines, these are warnings and errors: what a run says
  in its log at finer levels is left out. -/
  | log (entry : LogEntry)
  deriving DecidableEq, Repr

namespace Emission

/-- The forwarded lines among some emissions. -/
def lines (es : List Emission) : List (Stream × String) :=
  es.filterMap fun | line s t => some (s, t) | log _ => none

/-- The log entries among some emissions. -/
def logs (es : List Emission) : List LogEntry :=
  es.filterMap fun | line _ _ => none | log e => some e

/-- The log of a run that forwards its lines to the log. -/
def forwardedLogs (pid : Pid) (es : List Emission) : List LogEntry :=
  es.map fun | line s t => .forwarded pid s t | log e => e

/-- The lines forwarded from one stream. -/
def linesFrom (s : Stream) (es : List Emission) : List String :=
  es.filterMap fun | line t text => if t = s then some text else none | log _ => none

@[simp] theorem lines_append (es fs : List Emission) : lines (es ++ fs) = lines es ++ lines fs := by
  simp [lines]

@[simp] theorem logs_append (es fs : List Emission) : logs (es ++ fs) = logs es ++ logs fs := by
  simp [logs]

@[simp] theorem linesFrom_append (s : Stream) (es fs : List Emission) :
    linesFrom s (es ++ fs) = linesFrom s es ++ linesFrom s fs := by
  simp [linesFrom]

end Emission

/-- What has been recorded of one stream. -/
structure Capture where
  source : Stream
  /-- The octets kept. -/
  kept : Trail UInt8
  /-- The line in progress, if lines are forwarded. -/
  lines : Option LineBuffer
  limit : Option CaptureLimit
  /-- How many octets were dropped to stay within the limit. -/
  dropped : Nat
  deriving DecidableEq, Repr

namespace Capture

/-- Nothing recorded yet.  With `live`, lines are forwarded. -/
def start (source : Stream) (live : Bool) (limit : Option CaptureLimit) : Capture :=
  ⟨source, .empty, if live then some .empty else none, limit, 0⟩

/-- The octets kept, in order. -/
def bytes (c : Capture) : Bytes := c.kept.toList

/-- Keep a chunk and drop so many octets, the oldest first: those of the chunk go only when all
that was kept has gone. -/
def replaceOldest (c : Capture) (chunk : Bytes) (excess : Nat) : Capture :=
  let kept :=
    if c.kept.size ≤ excess then .ofList (chunk.drop (excess - c.kept.size))
    else (c.kept.dropFirst excess).append chunk
  { c with kept, dropped := c.dropped + excess }

/-- Keep the octets of a chunk, as far as the limit lets them. -/
def keep (c : Capture) (chunk : Bytes) : Capture × Except Overflow Unit :=
  match c.limit with
  | none => ({ c with kept := c.kept.append chunk }, .ok ())
  | some limit =>
    let total := c.kept.size + chunk.length
    if total ≤ limit.maxBytes.toNat then ({ c with kept := c.kept.append chunk }, .ok ())
    else
      match limit.strategy with
      | .fail => (c, .error ⟨c.source, limit.maxBytes⟩)
      | .dropOldest => (c.replaceOldest chunk (total - limit.maxBytes.toNat), .ok ())

/-- Put the lines of a chunk together: those that it completes, and the capture with what is
held back now. -/
def assemble (c : Capture) (chunk : Bytes) : Capture × List Emission :=
  match c.lines with
  | none => (c, [])
  | some buffer =>
    let (lines, buffer) := buffer.push chunk
    ({ c with lines := some buffer }, lines.map (.line c.source))

/-- What recording something does. -/
structure Recording where
  /-- The capture afterwards. -/
  capture : Capture
  /-- What is let out. -/
  emitted : List Emission
  result : Except Overflow Unit

/-- Record a chunk: its octets first, and then its lines, unless the octets are refused. -/
def record (c : Capture) (chunk : Bytes) : Recording :=
  match c.keep chunk with
  | (left, .error overflow) => ⟨left, [], .error overflow⟩
  | (left, .ok ()) =>
    let (left, lines) := left.assemble chunk
    ⟨left, lines, .ok ()⟩

/-- The line that the end of the stream completes. -/
def lastLine (c : Capture) : List Emission :=
  match c.lines with
  | none => []
  | some buffer => buffer.flush.1.toList.map (.line c.source)

/-- A word about what the limit cost. -/
def lossNote (c : Capture) : List Emission :=
  if c.dropped = 0 then []
  else
    [.log ⟨.warn, .capture,
      s!"Discarded {c.dropped} bytes of {c.source.name} beyond the capture limit", none⟩]

/-- The stream has ended: a line without a newline is complete now. -/
def finish (c : Capture) : Capture × List Emission :=
  ({ c with lines := c.lines.map (·.flush.2) }, c.lastLine ++ c.lossNote)

end Capture

end Outflow
