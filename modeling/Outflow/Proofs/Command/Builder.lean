import Outflow.Command.Builder

/-!
# Two ways to one command

A command that is built step by step is the command of the whole argument vector with its options
set afterwards: each to the last value that a step gave, and the variables to all that the steps
gave together.

What a run of steps leaves is told by `lastGiven`, the last value among those that some of the
steps give.

## Key results

- `foldl_lastGiven`: a component that each step may replace ends at the last value given
- `Overlay.get?_insertAll`: so does each variable
- `CommandBuilder.build_foldl_add`: what the steps come to
- `CommandBuilder.build_eq_direct`: both ways agree, and when they give a command at all
-/

namespace Outflow

/-! ### Last values -/

section Last

variable {ι α σ : Type}

/-- The last value among those that some steps give. -/
def lastGiven (value? : ι → Option α) (steps : List ι) : Option α :=
  (steps.filterMap value?).getLast?

@[simp] theorem lastGiven_nil (value? : ι → Option α) : lastGiven value? [] = none := rfl

@[simp] theorem lastGiven_cons (value? : ι → Option α) (i : ι) (steps : List ι) :
    lastGiven value? (i :: steps) = (lastGiven value? steps).or (value? i) := by
  unfold lastGiven
  cases h : value? i with
  | none => rw [List.filterMap_cons_none h, Option.or_none]
  | some a =>
    rw [List.filterMap_cons_some h, List.getLast?_cons]
    cases (steps.filterMap value?).getLast? <;> rfl

/-- A component of a state that each step replaces, or leaves alone, ends at the last value that
    is given for it. -/
theorem foldl_lastGiven (component : σ → Option α) {step : σ → ι → σ} {value? : ι → Option α}
    (h : ∀ s i, component (step s i) = (value? i).or (component s)) (s : σ) (steps : List ι) :
    component (steps.foldl step s) = (lastGiven value? steps).or (component s) := by
  induction steps generalizing s with
  | nil => rfl
  | cons i steps ih => rw [List.foldl_cons, ih, h, lastGiven_cons, Option.or_assoc]

end Last

/-! ### Overlays -/

namespace Overlay

/-- What some assignments in order say of a variable. -/
def assigned (vars : List (String × String)) (name : String) : Option String :=
  lastGiven (fun p : String × String => if p.1 = name then some p.2 else none) vars

/-- The last value of a name counts; a name that is not assigned keeps its value. -/
theorem get?_insertAll (o : Overlay) (vars : List (String × String)) (name : String) :
    (o.insertAll vars).get? name = (assigned vars name).or (o.get? name) := by
  refine foldl_lastGiven (get? · name) (fun o p => ?_) o vars
  rw [get?_insert]
  by_cases h : p.1 = name
  · rw [if_pos h, if_pos h.symm, Option.some_or]
  · rw [if_neg h, if_neg (Ne.symm h), Option.none_or]

theorem insertAll_append (o : Overlay) (xs ys : List (String × String)) :
    o.insertAll (xs ++ ys) = (o.insertAll xs).insertAll ys := by
  simp only [insertAll, List.foldl_append]

/-- Setting a variable adds its name unless that is there. -/
theorem mem_map_insert (o : Overlay) (name value n : String) :
    n ∈ (o.insert name value).map (·.1) ↔ n = name ∨ n ∈ o.map (·.1) := by
  induction o with
  | nil => simp [insert]
  | cons p rest ih =>
    obtain ⟨m, v⟩ := p
    unfold insert
    by_cases hm : m = name
    · subst hm
      simp
    · rw [if_neg hm, List.map_cons, List.mem_cons, ih, List.map_cons, List.mem_cons, or_left_comm]

theorem nodup_insert {o : Overlay} (h : (o.map (·.1)).Nodup) (name value : String) :
    ((o.insert name value).map (·.1)).Nodup := by
  induction o with
  | nil => simp [insert]
  | cons p rest ih =>
    obtain ⟨m, v⟩ := p
    obtain ⟨hm, hrest⟩ := List.nodup_cons.1 h
    unfold insert
    by_cases hname : m = name
    · -- The value of the name is replaced where it stands.
      rw [if_pos hname]
      exact h
    · rw [if_neg hname, List.map_cons, List.nodup_cons]
      refine ⟨fun hmem => ?_, ih hrest⟩
      obtain rfl | hmem := (mem_map_insert rest name value m).1 hmem
      · exact hname rfl
      · exact hm hmem

/-- An overlay that is made of assignments has each name once. -/
theorem nodup_insertAll {o : Overlay} (h : (o.map (·.1)).Nodup) (vars : List (String × String)) :
    ((o.insertAll vars).map (·.1)).Nodup := by
  induction vars generalizing o with
  | nil => exact h
  | cons p vars ih => exact ih (nodup_insert h p.1 p.2)

end Overlay

/-! ### Steps -/

namespace CommandBuilder

namespace Part

/-- The arguments that a step adds. -/
def arguments : Part → List String
  | .arg a => [a]
  | .args as => as
  | _ => []

/-- The variables that a step sets, if it is one that sets variables, be they none. -/
def vars? : Part → Option (List (String × String))
  | .env n v => some [(n, v)]
  | .envs vars => some vars
  | _ => none

def currentDir? : Part → Option String
  | .currentDir dir => some dir
  | _ => none

def capture? : Part → Option CaptureMode
  | .capture mode => some mode
  | _ => none

def live? : Part → Option Bool
  | .live enabled => some enabled
  | _ => none

def timeout? : Part → Option Duration
  | .timeout limit => some limit
  | _ => none

end Part

variable (b : CommandBuilder) (p : Part) (parts : List Part)

/-- The variables that some steps set together, if any of them sets variables. -/
def varsOf : Option (List (String × String)) :=
  match parts.filterMap Part.vars? with
  | [] => none
  | given => some given.flatten

@[simp] theorem varsOf_nil : varsOf [] = none := rfl

theorem varsOf_cons : varsOf (p :: parts) =
    match p.vars? with
    | none => varsOf parts
    | some vars => some (vars ++ (varsOf parts).getD []) := by
  unfold varsOf
  cases h : p.vars? with
  | none => rw [List.filterMap_cons_none h]
  | some vars =>
    rw [List.filterMap_cons_some h]
    cases parts.filterMap Part.vars? <;> simp

theorem varsOf_eq_none_iff : varsOf parts = none ↔ ∀ p ∈ parts, p.vars? = none := by
  unfold varsOf
  rw [← List.filterMap_eq_nil_iff]
  cases parts.filterMap Part.vars? <;> simp

/-! What a single step does to each component. -/

theorem program_add : (b.add p).program = b.program := by
  cases p <;> rfl

theorem arguments_add : (b.add p).arguments = b.arguments ++ p.arguments := by
  cases p <;> simp [add, Part.arguments]

theorem env_add : (b.add p).env =
    match p.vars? with
    | none => b.env
    | some vars => some ((b.env.getD []).insertAll vars) := by
  cases p <;> rfl

theorem workingDir_add : (b.add p).workingDir = p.currentDir?.or b.workingDir := by
  cases p <;> rfl

theorem capture_add : some (b.add p).capture = p.capture?.or (some b.capture) := by
  cases p <;> rfl

theorem live_add : some (b.add p).live = p.live?.or (some b.live) := by
  cases p <;> rfl

theorem timeout_add : (b.add p).timeout = p.timeout?.or b.timeout := by
  cases p <;> rfl

/-! What a run of steps does. -/

theorem program_foldl_add : (parts.foldl add b).program = b.program := by
  induction parts generalizing b with
  | nil => rfl
  | cons p parts ih => rw [List.foldl_cons, ih, program_add]

theorem arguments_foldl_add :
    (parts.foldl add b).arguments = b.arguments ++ parts.flatMap Part.arguments := by
  induction parts generalizing b with
  | nil => exact (List.append_nil _).symm
  | cons p parts ih =>
    rw [List.foldl_cons, ih, arguments_add, List.flatMap_cons, List.append_assoc]

theorem env_foldl_add : (parts.foldl add b).env =
    match varsOf parts with
    | none => b.env
    | some vars => some ((b.env.getD []).insertAll vars) := by
  induction parts generalizing b with
  | nil => rfl
  | cons p parts ih =>
    rw [List.foldl_cons, ih, env_add, varsOf_cons]
    cases p.vars? with
    | none => rfl
    | some vars =>
      simp only [Option.getD_some, Overlay.insertAll_append]
      cases varsOf parts with
      | none => rfl
      | some later => rfl

end CommandBuilder

/-! ### Commands -/

namespace Command

variable {α : Type}

/-- Set an option, if there is a value for it. -/
def setIf (c : Command) (setting : α → Setting) (value : Option α) : Command :=
  match value with
  | none => c
  | some a => c.set (setting a)

variable (c : Command)

theorem setIf_workingDir (dir : Option String) :
    c.setIf .workingDir dir = { c with workingDir := dir.or c.workingDir } := by
  cases dir <;> rfl

theorem setIf_env (vars : Option (List (String × String))) :
    c.setIf .env vars = { c with env := (vars.map (Overlay.insertAll [])).or c.env } := by
  cases vars <;> rfl

theorem setIf_capture (mode : Option CaptureMode) :
    c.setIf .capture mode = { c with capture := mode.getD c.capture } := by
  cases mode <;> rfl

theorem setIf_live (enabled : Option Bool) :
    c.setIf .live enabled = { c with live := enabled.getD c.live } := by
  cases enabled <;> rfl

theorem setIf_timeout (limit : Option Duration) :
    c.setIf .timeout limit = { c with timeout := limit.or c.timeout } := by
  cases limit <;> rfl

theorem args_foldl_set (settings : List Setting) : (settings.foldl set c).args = c.args := by
  induction settings generalizing c with
  | nil => rfl
  | cons s settings ih => rw [List.foldl_cons, ih, args_set]

end Command

namespace CommandBuilder

/-- A command with every option set for which some steps give a value. -/
def setLast (c : Command) (parts : List Part) : Command :=
  c.setIf .capture (lastGiven Part.capture? parts)
    |>.setIf .live (lastGiven Part.live? parts)
    |>.setIf .workingDir (lastGiven Part.currentDir? parts)
    |>.setIf .env (varsOf parts)
    |>.setIf .timeout (lastGiven Part.timeout? parts)

variable {program : String} {parts : List Part}

theorem setLast_plain {arguments : List String} (h : Text.blank program = false) :
    setLast (.plain program arguments h) parts =
      ⟨program, arguments, h, lastGiven Part.currentDir? parts,
        (varsOf parts).map (Overlay.insertAll []), (lastGiven Part.capture? parts).getD .captured,
        (lastGiven Part.live? parts).getD false, lastGiven Part.timeout? parts⟩ := by
  simp only [setLast, Command.setIf_capture, Command.setIf_live, Command.setIf_workingDir,
    Command.setIf_env, Command.setIf_timeout, Command.plain, Option.or_none]

/-- The builder after some steps, component by component. -/
theorem foldl_add_start (program : String) (parts : List Part) :
    parts.foldl add (start program) =
      ⟨program, parts.flatMap Part.arguments, (varsOf parts).map (Overlay.insertAll []),
        lastGiven Part.currentDir? parts, (lastGiven Part.capture? parts).getD .captured,
        (lastGiven Part.live? parts).getD false, lastGiven Part.timeout? parts⟩ := by
  -- One equation for each component; there are no others.
  have hprogram := program_foldl_add (start program) parts
  have harguments := arguments_foldl_add (start program) parts
  have henv := env_foldl_add (start program) parts
  have hdir := foldl_lastGiven workingDir workingDir_add (start program) parts
  have hcapture := foldl_lastGiven (fun b => some b.capture) capture_add (start program) parts
  have hlive := foldl_lastGiven (fun b => some b.live) live_add (start program) parts
  have htimeout := foldl_lastGiven timeout timeout_add (start program) parts
  generalize parts.foldl add (start program) = b at *
  obtain ⟨program', arguments', env', dir', capture', live', timeout'⟩ := b
  simp only [start, Option.or_none, Option.or_some, Option.some.injEq, List.nil_append] at *
  subst hprogram harguments hdir hcapture hlive htimeout henv
  cases varsOf parts <;> rfl

/-- A name that is not blank makes a command of the steps. -/
theorem build_foldl_add (h : Text.blank program = false) :
    (parts.foldl add (start program)).build =
      .ok (setLast (.plain program (parts.flatMap Part.arguments) h) parts) := by
  rw [foldl_add_start, build, dif_pos h, setLast_plain]

theorem build_foldl_add_of_blank (h : Text.blank program = true) :
    (parts.foldl add (start program)).build =
      .error (.invalidCommand "program name must not be empty") := by
  rw [foldl_add_start, build, dif_neg (by rw [h]; decide)]

theorem ofArgs_cons (h : Text.blank program = false) (arguments : List String) :
    Command.ofArgs (program :: arguments) = .ok (.plain program arguments h) := by
  simp only [Command.ofArgs, Command.ofArgs?, h, dite_true]

theorem ofArgs_cons_of_blank (h : Text.blank program = true) (arguments : List String) :
    Command.ofArgs (program :: arguments) =
      .error (.invalidCommand "argument vector must start with a program name") := by
  simp only [Command.ofArgs, Command.ofArgs?, h, Bool.true_eq_false, dite_false]

theorem blank_eq_false_iff (s : String) :
    Text.blank s = false ↔ ∃ ch ∈ s.toList, Text.isBlank ch = false := by
  rw [Text.blank, List.all_eq_false]
  simp only [Bool.not_eq_true]

/-- The steps give a command just if the program has a name. -/
theorem exists_build_iff (program : String) (parts : List Part) :
    (∃ c, (parts.foldl add (start program)).build = .ok c) ↔ Text.blank program = false := by
  cases h : Text.blank program with
  | false => exact iff_of_true ⟨_, build_foldl_add h⟩ rfl
  | true =>
    rw [build_foldl_add_of_blank h]
    exact iff_of_false (fun ⟨_, hok⟩ => nomatch hok) (by decide)

/-- So does the whole argument vector. -/
theorem exists_ofArgs_iff (program : String) (arguments : List String) :
    (∃ c, Command.ofArgs (program :: arguments) = .ok c) ↔ Text.blank program = false := by
  cases h : Text.blank program with
  | false => exact iff_of_true ⟨_, ofArgs_cons h arguments⟩ rfl
  | true =>
    rw [ofArgs_cons_of_blank h]
    exact iff_of_false (fun ⟨_, hok⟩ => nomatch hok) (by decide)

/-- Steps that set variables leave all of them together. -/
theorem eq_flatten_of_varsOf {vars : List (String × String)} (h : varsOf parts = some vars) :
    vars = (parts.filterMap Part.vars?).flatten := by
  unfold varsOf at h
  split at h
  · contradiction
  · exact (Option.some.inj h).symm

/-- **A command that is built step by step is the one that is made directly.**  Steps give a
    command just if the program has a character that is not blank, and just if the program with
    all the arguments of the steps in order is an argument vector; it is then the command of that
    vector with each option set to the last value given.  There is an overlay just if some step
    sets variables, be they none, and it has the last value of each variable over all such steps.
    Setting options later leaves the argument vector alone. -/
theorem build_eq_direct (program : String) (parts : List Part) :
    ((∃ c, (parts.foldl add (start program)).build = .ok c) ↔
      ∃ ch ∈ program.toList, Text.isBlank ch = false) ∧
    ((∃ c, (parts.foldl add (start program)).build = .ok c) ↔
      ∃ plain, Command.ofArgs (program :: parts.flatMap Part.arguments) = .ok plain) ∧
    ∀ c, (parts.foldl add (start program)).build = .ok c →
      (∃ plain, Command.ofArgs (program :: parts.flatMap Part.arguments) = .ok plain ∧
        c = setLast plain parts) ∧
      (c.env = none ↔ ∀ p ∈ parts, p.vars? = none) ∧
      (∀ overlay, c.env = some overlay → (overlay.map (·.1)).Nodup ∧
        ∀ name, overlay.get? name =
          Overlay.assigned (parts.filterMap Part.vars?).flatten name) ∧
      ∀ settings : List Command.Setting,
        (settings.foldl Command.set c).args = program :: parts.flatMap Part.arguments ∧
        Text.blank (settings.foldl Command.set c).program = false ∧
        (settings.foldl Command.set c).args =
          (settings.foldl Command.set c).program :: (settings.foldl Command.set c).arguments := by
  have hbuild := exists_build_iff program parts
  refine ⟨hbuild.trans (blank_eq_false_iff program),
    hbuild.trans (exists_ofArgs_iff program _).symm, fun c hc => ?_⟩
  have hname : Text.blank program = false := hbuild.1 ⟨c, hc⟩
  have hdirect : c = setLast (.plain program (parts.flatMap Part.arguments) hname) parts :=
    Except.ok.inj (hc.symm.trans (build_foldl_add hname))
  have hfields := hdirect.trans (setLast_plain hname)
  have henv : c.env = (varsOf parts).map (Overlay.insertAll []) := by rw [hfields]
  have hargs : c.args = program :: parts.flatMap Part.arguments := by
    rw [hfields]
    rfl
  refine ⟨⟨_, ofArgs_cons hname _, hdirect⟩, ?_, fun overlay hoverlay => ?_, fun settings => ?_⟩
  · rw [henv, Option.map_eq_none_iff, varsOf_eq_none_iff]
  · obtain ⟨vars, hvars, rfl⟩ := Option.map_eq_some_iff.1 (henv.symm.trans hoverlay)
    refine ⟨Overlay.nodup_insertAll (o := []) List.nodup_nil vars, fun name => ?_⟩
    rw [Overlay.get?_insertAll, Overlay.get?_nil, Option.or_none, eq_flatten_of_varsOf hvars]
  · exact ⟨(Command.args_foldl_set c settings).trans hargs,
      (settings.foldl Command.set c).program_not_blank, rfl⟩

end CommandBuilder

end Outflow
