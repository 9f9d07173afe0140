/-!
# Raw wait statuses

The status word that the operating system gives for a child: its low seven bits say how the
child ended, and the octet above them carries the exit code.
-/

namespace Outflow

/-- How a child ended. -/
inductive WaitStatus where
  | exited (code : Nat)
  /-- Ended by a signal. -/
  | signalled (signal : Nat)
  /-- Only stopped. -/
  | stopped
  deriving DecidableEq, Repr

namespace WaitStatus

/-- Take a status word apart. -/
def ofWord (word : UInt32) : WaitStatus :=
  let low := word.toNat % 128
  if low = 0 then .exited (word.toNat / 256 % 256)
  else if low < 127 then .signalled low
  else .stopped

/-- The exit code that stands for a way to end: the code itself, or minus the signal. -/
def exitCode : WaitStatus → Int32
  | .exited code => Int32.ofNat code
  | .signalled signal => -Int32.ofNat signal
  | .stopped => -1

end WaitStatus

end Outflow
