import Outflow.Application
import Outflow.Host.LiveChild
import Outflow.Log.Filter

/-!
# A machine as what is outside the program

A `Machine` has everything that the program looks for outside itself: variables, files, and
children that it starts.  Reports are written to streams with room for anything.
-/

namespace Outflow

namespace LiveChild

/-- The child when a run has come to its outcome, but has not shut it down. -/
def atOutcome (c : LiveChild) (x : Execution) : LiveChild := c.waitUntil (x.elapsed * 1000)

/-- The child after all that a run asked of it. -/
def after (c : LiveChild) (x : Execution) : LiveChild :=
  x.calls.foldl
    (fun c call =>
      match call with
      | .wait => c
      | .shutdown grace => (c.shutdown grace).2)
    (c.atOutcome x)

/-- What is said in the log while a run shuts the child down, if it does. -/
def shutdownNotesOf (c : LiveChild) (x : Execution) : List LogEntry :=
  x.calls.flatMap fun
    | .wait => []
    | .shutdown grace => (c.atOutcome x).shutdownNotes grace

/-- The child, as a run sees it. -/
def started (c : LiveChild) : Started :=
  let (taken, c) := c.takeStreams
  let b := c.supervised.world.behaviour
  { child := b.child pid taken
    schedule := b.schedule
    inherited := fun x =>
      let last := (c.after x).supervised.world.behaviour
      ⟨last.outputOn .stdout, last.outputOn .stderr⟩
    notes := c.shutdownNotesOf
    took := fun x => .ofMillis ((c.after x).supervised.world.micros / 1000) }

end LiveChild

/-- What the program finds on a machine.  `stamp` stands for the time in the log. -/
def Machine.outside (m : Machine) (stamp : String) : Outside where
  var? := m.env.get?
  file path := m.files.read m.dir path
  filter? text := (LogFilter.read? text).map LogFilter.shows
  stamp := stamp
  start command := (LiveChild.start m command).map LiveChild.started
  writers := ⟨.start none false, .start none false⟩

end Outflow
