import Mathlib
import Outflow.Script

/-!
# What a script is used for

A script has two handles, the one that expectations are registered with and a manager that runs
commands; both lead to one state.  What the script answers follows from what has been done with
it since it was last reset, by either handle: `Told` says how, in terms of the history alone.

Every command is decided by the earliest expectation that fits it, at the time it is run.  The
expectations do not count anything but that (`Follows`), so an expectation with a limit gives its
response to just as many of the commands that it decides, and no other one gets the rest
(`runUses_told`).
-/

namespace Outflow

namespace Expectation

/-- The expectation that details make. -/
def ofDetails (program : String) (details : List Detail) : Expectation :=
  details.foldl add (.start program)

@[simp] theorem decided_add (e : Expectation) (detail : Detail) :
    (e.add detail).decided = e.decided := by
  cases detail <;> rfl

/-- No detail counts as a call. -/
theorem decided_ofDetails (program : String) (details : List Detail) :
    (ofDetails program details).decided = 0 := by
  suffices hadd : ∀ e : Expectation, (details.foldl add e).decided = e.decided from hadd _
  induction details with
  | nil => exact fun e => rfl
  | cons detail details ih => exact fun e => (ih _).trans (decided_add e detail)

/-- Which commands an expectation fits has nothing to do with how many it has decided. -/
@[simp] theorem fits_decided (e : Expectation) (n : Nat) (c : Command) :
    ({ e with decided := n } : Expectation).fits c = e.fits c := rfl

end Expectation

namespace Script

/-! ### Histories -/

/-- Who is asked to run a command. -/
inductive Handle where
  | script
  /-- A manager that passes every command on to the script. -/
  | manager

/-- One use of a script. -/
inductive Use where
  /-- Make an expectation, and register it if it is finished. -/
  | expect (program : String) (details : List Expectation.Detail) (finished : Bool)
  | run (handle : Handle) (c : Command)
  | verify (program : String) (times : Nat)
  | history
  | reset

/-- What a use gives back. -/
inductive Reply where
  | done
  | outcome (outcome : Outcome)
  | verified (holds : Bool)
  | commands (commands : List Command)

/-- What one use gives back, and the script after it. -/
def use (s : Script) : Use → Reply × Script
  | .expect program details finished =>
    (.done, if finished then s.expect (.ofDetails program details) else s)
  | .run _ c => (.outcome (s.run c).1, (s.run c).2)
  | .verify program times => (.verified (s.calledTimes program times), s)
  | .history => (.commands s.history, s)
  | .reset => (.done, .empty)

/-- What a history of uses gives back, and the script after it. -/
def runUses (s : Script) : List Use → List Reply × Script
  | [] => ([], s)
  | u :: us => ((s.use u).1 :: ((s.use u).2.runUses us).1, ((s.use u).2.runUses us).2)

theorem runUses_append (s : Script) (us vs : List Use) :
    s.runUses (us ++ vs) =
      ((s.runUses us).1 ++ ((s.runUses us).2.runUses vs).1, ((s.runUses us).2.runUses vs).2) := by
  induction us generalizing s with
  | nil => rfl
  | cons u us ih => simp only [List.cons_append, runUses, ih]

@[simp] theorem length_runUses (s : Script) (us : List Use) :
    (s.runUses us).1.length = us.length := by
  induction us generalizing s with
  | nil => rfl
  | cons u us ih => simp [runUses, ih]

namespace Use

def isReset : Use → Bool
  | reset => true
  | _ => false

/-- The command that is run. -/
def command? : Use → Option Command
  | run _ c => some c
  | _ => none

/-- The expectation that is registered. -/
def expectation? : Use → Option Expectation
  | expect program details true => some (.ofDetails program details)
  | _ => none

end Use

/-- The commands that were run. -/
def commandsRun (us : List Use) : List Command := us.filterMap Use.command?

/-- The expectations that were registered. -/
def registered (us : List Use) : List Expectation := us.filterMap Use.expectation?

/-- The place of the earliest of the expectations registered so far that fits a command. -/
def decider (us : List Use) (c : Command) : Option Nat := (registered us).findIdx? (·.fits c)

/-- The deciders of the commands that are run after some uses. -/
def decidersFrom (before : List Use) : List Use → List (Option Nat)
  | [] => []
  | u :: us => (u.command?.map (decider before)).toList ++ decidersFrom (before ++ [u]) us

/-- For each command that was run, the place of the expectation that decided it. -/
def deciders (us : List Use) : List (Option Nat) := decidersFrom [] us

/-- How many commands an expectation has decided. -/
def decidedBy (us : List Use) (i : Nat) : Nat := (deciders us).count (some i)

/-- How many commands no expectation has decided. -/
def undecided (us : List Use) : Nat := (deciders us).count none

/-- What a use must be told after others, in terms of what they were. -/
inductive Told (since : List Use) : Use → Reply → Prop where
  | expected {program : String} {details : List Expectation.Detail} {finished : Bool} :
    Told since (.expect program details finished) .done
  | reset : Told since .reset .done
  | history : Told since .history (.commands (commandsRun since))
  | verified {program : String} {times : Nat} :
    Told since (.verify program times)
      (.verified (((commandsRun since).filter (·.program = program)).length = times))
  | undecided {handle : Handle} {c : Command} (h : decider since c = none) :
    Told since (.run handle c)
      (.outcome (.error (.unexpected s!"No expectation found for command: {c.display}")))
  /-- The command is one of those that its expectation has a response for. -/
  | response {handle : Handle} {c : Command} {i : Nat} {e : Expectation}
    (h : decider since c = some i) (he : (registered since)[i]? = some e)
    (hlimit : ∀ limit, e.limit = some limit → decidedBy since i + 1 ≤ limit) :
    Told since (.run handle c) (.outcome (e.response.outcome c))
  /-- The command is one too many. -/
  | exhausted {handle : Handle} {c : Command} {i : Nat} {e : Expectation} {limit : Nat}
    (h : decider since c = some i) (he : (registered since)[i]? = some e)
    (hlimit : e.limit = some limit) (hlt : limit < decidedBy since i + 1) :
    Told since (.run handle c) (.outcome (.error (.unexpected
      s!"Command '{c.program}' called {decidedBy since i + 1} times, expected {limit}")))

variable {since us : List Use} {s : Script} {c : Command}

/-! ### One use more -/

theorem commandsRun_append_singleton (us : List Use) (u : Use) :
    commandsRun (us ++ [u]) = commandsRun us ++ u.command?.toList := by
  cases h : u.command? <;> simp [commandsRun, h]

theorem registered_append_singleton (us : List Use) (u : Use) :
    registered (us ++ [u]) = registered us ++ u.expectation?.toList := by
  cases h : u.expectation? <;> simp [registered, h]

theorem deciders_append_singleton (us : List Use) (u : Use) :
    deciders (us ++ [u]) = deciders us ++ (u.command?.map (decider us)).toList := by
  suffices hfrom : ∀ before, decidersFrom before (us ++ [u]) =
      decidersFrom before us ++ (u.command?.map (decider (before ++ us))).toList from hfrom []
  induction us with
  | nil => simp [decidersFrom]
  | cons v us ih =>
    intro before
    rw [List.cons_append, decidersFrom, decidersFrom, ih, List.append_assoc, List.append_assoc,
      List.singleton_append]

theorem decidedBy_append_singleton (us : List Use) (u : Use) (i : Nat) :
    decidedBy (us ++ [u]) i =
      decidedBy us i + (u.command?.map (decider us)).toList.count (some i) := by
  rw [decidedBy, deciders_append_singleton, List.count_append, decidedBy]

theorem undecided_append_singleton (us : List Use) (u : Use) :
    undecided (us ++ [u]) = undecided us + (u.command?.map (decider us)).toList.count none := by
  rw [undecided, deciders_append_singleton, List.count_append, undecided]

/-- Only an expectation that is registered decides. -/
theorem lt_of_mem_deciders {i : Nat} (h : some i ∈ deciders us) : i < (registered us).length := by
  induction us using List.reverseRecOn with
  | nil => simp [deciders, decidersFrom] at h
  | append_singleton us u ih =>
    rw [registered_append_singleton, List.length_append]
    rw [deciders_append_singleton, List.mem_append] at h
    rcases h with hbefore | hnow
    · exact Nat.lt_add_right _ (ih hbefore)
    · obtain ⟨c, -, hc⟩ := Option.map_eq_some_iff.1 (Option.mem_toList.1 hnow)
      obtain ⟨hlt, -⟩ := List.findIdx?_eq_some_iff_getElem.1 hc
      exact Nat.lt_add_right _ hlt

/-- An expectation has decided nothing before it is registered. -/
theorem decidedBy_length (us : List Use) : decidedBy us (registered us).length = 0 :=
  List.count_eq_zero.2 fun h => Nat.lt_irrefl _ (lt_of_mem_deciders h)

/-! ### What a script keeps of a history -/

/-- The expectations that fit a command are the same ones whatever has been counted. -/
theorem findIdx?_mapIdx_decided (f : Nat → Nat) (es : List Expectation) (c : Command) :
    (es.mapIdx fun i e => { e with decided := f i }).findIdx? (·.fits c) =
      es.findIdx? (·.fits c) := by
  induction es generalizing f with
  | nil => rfl
  | cons e es ih => simp [List.mapIdx_cons, List.findIdx?_cons, ih]

/-- One command more for one of them. -/
theorem modify_counted (f : Nat → Nat) (es : List Expectation) (j : Nat) :
    (es.mapIdx fun i e => { e with decided := f i }).modify j Expectation.counted =
      es.mapIdx fun i e => { e with decided := f i + if j = i then 1 else 0 } := by
  apply List.ext_getElem?
  intro i
  rw [List.getElem?_modify, List.getElem?_mapIdx, List.getElem?_mapIdx]
  by_cases h : j = i
  · subst h
    simp [Option.map_map, Function.comp_def, Expectation.counted]
  · simp [h]

/-- A command is counted once, by the expectation that decides it. -/
theorem sum_decided_decide (c : Command) (es : List Expectation) :
    ((decide c es).2.map (·.decided)).sum =
      (es.map (·.decided)).sum + if (es.findIdx? (·.fits c)).isSome then 1 else 0 := by
  induction es with
  | nil => rfl
  | cons e es ih =>
    by_cases h : e.fits c = true
    · simp [decide, List.findIdx?_cons, h, Expectation.counted]
      omega
    · simp [decide, List.findIdx?_cons, h, ih]
      omega

/-- A script follows a history if it has its commands, and its expectations, and each of these
    counts the commands that it has decided. -/
structure Follows (since : List Use) (s : Script) : Prop where
  history : s.history = commandsRun since
  expectations : s.expectations =
    (registered since).mapIdx fun i e => { e with decided := decidedBy since i }
  /-- Every command is counted by an expectation or by none. -/
  calls : (s.expectations.map (·.decided)).sum + undecided since = s.history.length

namespace Follows

theorem empty : Follows [] empty := ⟨rfl, rfl, rfl⟩

theorem findIdx? (h : Follows since s) (c : Command) :
    s.expectations.findIdx? (·.fits c) = decider since c := by
  rw [h.expectations, findIdx?_mapIdx_decided, decider]

/-- A use that runs nothing and registers nothing leaves all as it is. -/
theorem idle (h : Follows since s) {u : Use} (hc : u.command? = none)
    (he : u.expectation? = none) : Follows (since ++ [u]) s := by
  refine ⟨?_, ?_, ?_⟩
  · simpa [commandsRun_append_singleton, hc] using h.history
  · simpa [registered_append_singleton, decidedBy_append_singleton, hc, he] using h.expectations
  · simpa [undecided_append_singleton, hc] using h.calls

/-- What is registered has decided nothing yet. -/
theorem expect (h : Follows since s) (program : String) (details : List Expectation.Detail) :
    Follows (since ++ [.expect program details true])
      (s.expect (.ofDetails program details)) := by
  refine ⟨?_, ?_, ?_⟩
  · simpa [commandsRun_append_singleton, Use.command?] using h.history
  · -- The place of the new expectation is one that nothing has been decided from.
    have hnew : decidedBy since (registered since).length =
        (Expectation.ofDetails program details).decided := by
      rw [decidedBy_length, Expectation.decided_ofDetails]
    simp [registered_append_singleton, decidedBy_append_singleton, Use.command?, Use.expectation?,
      List.mapIdx_concat, Script.expect, h.expectations, hnew]
  · simpa [undecided_append_singleton, Use.command?, Script.expect,
      Expectation.decided_ofDetails] using h.calls

/-- A command that is run is counted by its decider. -/
theorem run (h : Follows since s) (handle : Handle) (c : Command) :
    Follows (since ++ [.run handle c]) (s.run c).2 := by
  have hexpectations : (s.run c).2.expectations = (Script.decide c s.expectations).2 := rfl
  refine ⟨?_, ?_, ?_⟩
  · simp [commandsRun_append_singleton, Use.command?, h.history]
  · rw [hexpectations, decide_snd, h.findIdx?, h.expectations]
    simp only [registered_append_singleton, decidedBy_append_singleton, Use.command?,
      Use.expectation?, Option.map_some, Option.toList_some, Option.toList_none, List.append_nil]
    cases decider since c with
    | none => simp
    | some j => simp [modify_counted, List.count_singleton]
  · rw [hexpectations, sum_decided_decide, h.findIdx?, undecided_append_singleton, history_run,
      List.length_append, ← h.calls]
    -- The command is one more for its decider, or for those that have none.
    cases hdecider : decider since c with
    | none => simp [Use.command?, hdecider, Nat.add_assoc]
    | some j => simp [Use.command?, hdecider, Nat.add_right_comm]

/-- Every use is followed. -/
theorem use (h : Follows since s) {u : Use} (hu : u.isReset = false) :
    Follows (since ++ [u]) (s.use u).2 := by
  cases u with
  | expect program details finished =>
    cases finished with
    | false => exact h.idle rfl rfl
    | true => exact h.expect program details
  | run handle c => exact h.run handle c
  | verify program times => exact h.idle rfl rfl
  | history => exact h.idle rfl rfl
  | reset => contradiction

/-- The expectation that decides a command answers it, as the one that it is for it. -/
theorem answer (h : Follows since s) {i : Nat} {e : Expectation} (hd : decider since c = some i)
    (he : (registered since)[i]? = some e) :
    (s.run c).1 = e.answer c (decidedBy since i + 1) := by
  have hfind : s.expectations.find? (·.fits c) =
      some { e with decided := decidedBy since i } := by
    rw [List.find?_eq_bind_findIdx?_getElem?, h.findIdx?, hd, h.expectations, Option.bind_some,
      List.getElem?_mapIdx, he, Option.map_some]
  rw [run_fst, hfind]
  rfl

/-- A command that nothing decides is refused. -/
theorem refuse (h : Follows since s) (hd : decider since c = none) :
    (s.run c).1 = .error (.unexpected s!"No expectation found for command: {c.display}") := by
  have hfind : s.expectations.find? (·.fits c) = none := by
    rw [List.find?_eq_bind_findIdx?_getElem?, h.findIdx?, hd, Option.bind_none]
  rw [run_fst, hfind]

/-- A script that follows a history replies what the history says, to commands as well. -/
theorem told (h : Follows since s) (u : Use) : Told since u (s.use u).1 := by
  cases u with
  | expect program details finished => exact .expected
  | reset => exact .reset
  | history =>
    rw [Script.use, h.history]
    exact .history
  | verify program times =>
    rw [Script.use, calledTimes, callCount, h.history, List.countP_eq_length_filter]
    exact .verified
  | run handle c =>
    rw [Script.use]
    cases hd : decider since c with
    | none =>
      rw [h.refuse hd]
      exact .undecided hd
    | some i =>
      obtain ⟨hi, -⟩ := List.findIdx?_eq_some_iff_getElem.1 hd
      have he : (registered since)[i]? = some (registered since)[i] := List.getElem?_eq_getElem hi
      rw [h.answer hd he]
      -- It is answered by its number among the commands with that decider.
      by_cases hlimit : ∀ limit, (registered since)[i].limit = some limit →
          decidedBy since i + 1 ≤ limit
      · rw [Expectation.answer_of_le c hlimit]
        exact .response hd he hlimit
      · simp only [not_forall, Nat.not_le] at hlimit
        obtain ⟨limit, hlimit, hlt⟩ := hlimit
        rw [Expectation.answer_of_lt c hlimit hlt]
        exact .exhausted hd he hlimit hlt

end Follows

end Script

end Outflow
