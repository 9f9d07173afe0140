import Mathlib.Data.List.Forall2
import Outflow.Options
import Outflow.Proofs.Command.Builder
import Outflow.Proofs.Text.Decimal

/-!
# From the command line to a command

The options of a run and the command after them share one list of arguments.  However the options
are mixed, and whatever the arguments of the command look like, each is read as what it is: the
options say what is said of them (`Says`), and the command is handed on word for word.

## Key results

- `Reading.IsFlag.read_cons`: an argument that is a flag is read as its option
- `Given.Says.turnOn` / `Given.Says.choose`: one more option says one thing more, and no other
- `Reading.read_uses`: a run of options is read from the left to the right
- `ofArgs_run_verbatim`: a whole command line, up to the command that is built from it
-/

namespace Outflow

namespace CommandLine

/-! ### Options as they are given -/

/-- The flags of an option without a value.  The explanations are left aside. -/
def Switch.flags : Switch → List String
  | .verbose => ["-v", "--verbose"]
  | .live => ["--live"]
  | .noCapture => ["--no-capture"]
  | .help _ => []
  | .version => []

/-- The flags of an option with a value. -/
def Setting.flags : Setting → List String
  | .cwd => ["-C", "--cwd"]
  | .env => ["-e", "--env"]
  | .timeout => ["--timeout"]
  | .config => ["-c", "--config"]
  | .format => ["--format"]

/-- A variable and its value, as an argument spells them.  The name has no equals sign, so it ends
    at the first one of the argument. -/
structure Assigns (arg : String) (pair : String × String) : Prop where
  name_ne : pair.1 ≠ ""
  no_equals : '=' ∉ pair.1.toList
  eq : arg = pair.1 ++ "=" ++ pair.2

/-- The values that an option can have. -/
def Setting.Takes (value : String) : Setting → Prop
  | .cwd => True
  | .config => True
  | .env => ∃ pair, Assigns value pair
  | .timeout => ∃ limit, Duration.ofUnits? value = .ok limit
  | .format => ∃ format : OutputFormat, format.name = value

/-- An option as it is given: by a flag, and with its value as the next argument. -/
inductive OptionUse where
  | switch (s : Switch) (flag : String)
  | setting (s : Setting) (flag value : String)

namespace OptionUse

/-- The arguments that give an option. -/
def args : OptionUse → List String
  | switch _ flag => [flag]
  | setting _ flag value => [flag, value]

/-- The option that is given. -/
def choice : OptionUse → Choice
  | switch s _ => .switch s
  | setting s _ _ => .setting s

/-- The flag is one of the option, and the value, if there is one, is not empty, does not begin
    with a hyphen and is one that the option can have. -/
def WellFormed : OptionUse → Prop
  | switch s flag => flag ∈ s.flags
  | setting s flag value =>
    flag ∈ s.flags ∧ value ≠ "" ∧ value.toList.head? ≠ some '-' ∧ s.Takes value

end OptionUse

/-- Only variables and requests for more detail can be given more than once. -/
def Choice.Repeatable (c : Choice) : Prop := c = .setting .env ∨ c = .switch .verbose

instance : DecidablePred Choice.Repeatable := fun _ => inferInstanceAs (Decidable (_ ∨ _))

/-- Options that go together. -/
structure WellGiven (uses : List OptionUse) : Prop where
  wellFormed : ∀ u ∈ uses, u.WellFormed
  once : uses.Pairwise fun u v => u.choice = v.choice → v.choice.Repeatable
  exclusive : ¬ (.switch .live ∈ uses.map OptionUse.choice ∧
    .switch .noCapture ∈ uses.map OptionUse.choice)

/-- The values that some options give a setting, in order. -/
def valuesOf (s : Setting) (uses : List OptionUse) : List String :=
  uses.filterMap fun
    | .switch _ _ => none
    | .setting t _ value => if t = s then some value else none

@[simp] theorem valuesOf_concat_switch (s : Setting) (uses : List OptionUse) (t : Switch)
    (flag : String) : valuesOf s (uses ++ [.switch t flag]) = valuesOf s uses := by
  simp [valuesOf]

@[simp] theorem valuesOf_concat_setting (s : Setting) (uses : List OptionUse) (t : Setting)
    (flag value : String) : valuesOf s (uses ++ [.setting t flag value]) =
      valuesOf s uses ++ if t = s then [value] else [] := by
  by_cases h : t = s <;> simp [valuesOf, h]

theorem valuesOf_eq_nil {s : Setting} {uses : List OptionUse}
    (h : ∀ u ∈ uses, u.choice ≠ .setting s) : valuesOf s uses = [] := by
  refine List.filterMap_eq_nil_iff.2 fun u hu => ?_
  cases u with
  | switch t flag => rfl
  | setting t flag value => exact if_neg fun ht => h _ hu (congrArg Choice.setting ht)

/-! ### What the options say -/

/-- What was given is what some options say. -/
structure Given.Says (g : Given) (uses : List OptionUse) : Prop where
  verbosity :
    g.verbosity = min ((uses.map OptionUse.choice).count (.switch .verbose)) Given.maxVerbosity
  cwd : g.cwd.toList = valuesOf .cwd uses
  env : List.Forall₂ Assigns (valuesOf .env uses) g.env
  noCapture : g.noCapture = true ↔ .switch .noCapture ∈ uses.map OptionUse.choice
  live : g.live = true ↔ .switch .live ∈ uses.map OptionUse.choice
  timeout : g.timeout.toList.map Except.ok = (valuesOf .timeout uses).map Duration.ofUnits?
  config : g.config.toList = valuesOf .config uses
  format : g.format.toList.map OutputFormat.name = valuesOf .format uses

theorem Given.says_nothing : Given.Says .nothing [] where
  verbosity := rfl
  cwd := rfl
  env := .nil
  noCapture := by simp [Given.nothing]
  live := by simp [Given.nothing]
  timeout := rfl
  config := rfl
  format := rfl

/-- An argument that spells a variable is taken apart as it was put together. -/
theorem assignment?_of_assigns {arg : String} {pair : String × String} (h : Assigns arg pair) :
    Given.assignment? arg = some pair := by
  obtain ⟨name, value⟩ := pair
  obtain ⟨hname, hequals, rfl⟩ := h
  have hfront : ∀ c ∈ name.toList, decide (c ≠ '=') = true := fun c hc =>
    decide_eq_true fun he => hequals (he ▸ hc)
  have hrest : ∀ c ∈ ('=' :: value.toList).head?, decide (c ≠ '=') = false := by
    simp
  have hcut : cutAtEquals (name ++ "=" ++ value).toList = (name, some value) := by
    have harg : (name ++ "=" ++ value).toList = name.toList ++ '=' :: value.toList := by
      simp
    rw [harg, cutAtEquals, Text.takeWhile_append_of_head? hfront hrest,
      Text.dropWhile_append_of_head? hfront hrest]
    simp
  rw [Given.assignment?, hcut]
  exact if_neg hname

theorem ofName?_name (f : OutputFormat) : OutputFormat.ofName? f.name = some f := by
  cases f <;> rfl

/-- An option without a value is taken if it is not there yet, and says no more than that it is
    there. -/
theorem Given.Says.turnOn {g : Given} {uses : List OptionUse} (h : g.Says uses) {s : Switch}
    {flag : String} (hflag : flag ∈ s.flags)
    (hfresh : s ≠ .verbose → .switch s ∉ uses.map OptionUse.choice) :
    ∃ g', g.turnOn s = .ok g' ∧ g'.Says (uses ++ [.switch s flag]) := by
  obtain ⟨hverbosity, hcwd, henv, hnoCapture, hlive, htimeout, hconfig, hformat⟩ := h
  cases s with
  | verbose =>
    refine ⟨_, rfl, ?_⟩
    constructor <;> simp [OptionUse.choice, *]
    omega
  | live =>
    have hoff : g.live = false := Bool.eq_false_iff.2 fun hon => hfresh (by simp) (hlive.1 hon)
    refine ⟨{ g with live := true }, by simp [Given.turnOn, hoff], ?_⟩
    constructor <;> simp [OptionUse.choice, *]
  | noCapture =>
    have hoff : g.noCapture = false :=
      Bool.eq_false_iff.2 fun hon => hfresh (by simp) (hnoCapture.1 hon)
    refine ⟨{ g with noCapture := true }, by simp [Given.turnOn, hoff], ?_⟩
    constructor <;> simp [OptionUse.choice, *]
  | help topic => exact nomatch hflag
  | version => exact nomatch hflag

/-- A value that an option can have is taken if the option has none yet, and says no more than
    that the option has it. -/
theorem Given.Says.choose {g : Given} {uses : List OptionUse} (h : g.Says uses) {s : Setting}
    {value : String} (flag : String) (hempty : value ≠ "") (htakes : s.Takes value)
    (hfresh : s ≠ .env → valuesOf s uses = []) :
    ∃ g', g.choose s value = .ok g' ∧ g'.Says (uses ++ [.setting s flag value]) := by
  obtain ⟨hverbosity, hcwd, henv, hnoCapture, hlive, htimeout, hconfig, hformat⟩ := h
  cases s with
  | cwd =>
    have hunset : g.cwd = none := by simpa [hfresh] using hcwd
    refine ⟨{ g with cwd := some value },
      by simp [Given.choose, Given.path, hunset, hempty, Except.map], ?_⟩
    constructor <;> simp [OptionUse.choice, *]
  | env =>
    obtain ⟨pair, hpair⟩ := htakes
    refine ⟨{ g with env := g.env ++ [pair] },
      by simp [Given.choose, assignment?_of_assigns hpair], ?_⟩
    constructor <;> simp [OptionUse.choice, *]
    exact List.rel_append henv (.cons hpair .nil)
  | timeout =>
    obtain ⟨limit, hlimit⟩ := htakes
    have hunset : g.timeout = none := by simpa [hfresh] using htimeout
    refine ⟨{ g with timeout := some limit }, by simp [Given.choose, hunset, hlimit], ?_⟩
    constructor <;> simp [OptionUse.choice, *]
  | config =>
    have hunset : g.config = none := by simpa [hfresh] using hconfig
    refine ⟨{ g with config := some value },
      by simp [Given.choose, Given.path, hunset, hempty, Except.map], ?_⟩
    constructor <;> simp [OptionUse.choice, *]
  | format =>
    obtain ⟨format, rfl⟩ := htakes
    have hunset : g.format = none := by simpa [hfresh] using hformat
    refine ⟨{ g with format := some format }, by simp [Given.choose, hunset, ofName?_name], ?_⟩
    constructor <;> simp [OptionUse.choice, *]

/-! ### Reading options -/

namespace Reading

/-- An argument that is read as one option, whatever has been read before it. -/
structure IsFlag (flag : String) (take : Reading → Except UsageError Reading) : Prop where
  ne_divider : Shape.ofArg flag ≠ .divider
  isOption : isOption runGrammar (Shape.ofArg flag) = true
  option_eq : ∀ r, option runGrammar r (Shape.ofArg flag) = take r

theorem IsFlag.read_cons {flag : String} {take : Reading → Except UsageError Reading}
    (h : IsFlag flag take) {r r' : Reading} (hr : take r = .ok r') (rest : List String) :
    read runGrammar r (flag :: rest) = read runGrammar r' rest := by
  rw [read, if_neg h.ne_divider, if_pos h.isOption, h.option_eq, hr]

theorem short_singleton {g : Grammar} {c : Char} {s : Switch}
    (h : g.short? c = some (.switch s)) (r : Reading) : short g r [c] = r.turnOn s := by
  rw [short.eq_def]
  simp only [h]
  cases r.turnOn s <;> rfl

theorem isFlag_switch {s : Switch} {flag : String} (h : flag ∈ s.flags) :
    IsFlag flag (·.turnOn s) := by
  cases s with
  | verbose =>
    obtain rfl | h := List.mem_cons.1 h
    · exact ⟨by decide, rfl, short_singleton rfl⟩
    · obtain rfl := List.mem_singleton.1 h
      exact ⟨by decide, rfl, fun _ => rfl⟩
  | live =>
    obtain rfl := List.mem_singleton.1 h
    exact ⟨by decide, rfl, fun _ => rfl⟩
  | noCapture =>
    obtain rfl := List.mem_singleton.1 h
    exact ⟨by decide, rfl, fun _ => rfl⟩
  | help topic => exact nomatch h
  | version => exact nomatch h

theorem isFlag_setting {s : Setting} {flag : String} (h : flag ∈ s.flags) :
    IsFlag flag (·.await s) := by
  cases s <;> simp only [Setting.flags, List.mem_cons, List.not_mem_nil, or_false] at h
  case timeout | format => subst h; exact ⟨by decide, rfl, fun _ => rfl⟩
  all_goals
    obtain rfl | rfl := h <;> exact ⟨by decide, rfl, fun _ => rfl⟩

/-- Only what begins with a hyphen is anything but plain. -/
theorem ofArg_eq_plain {arg : String} (h : arg.toList.head? ≠ some '-') :
    Shape.ofArg arg = .plain := by
  unfold Shape.ofArg
  split
  · rename_i hc
    exact absurd (by rw [hc]; rfl) h
  · rename_i hc
    exact absurd (by rw [hc]; rfl) h
  · rename_i hc
    exact absurd (by rw [hc]; rfl) h
  · rfl

theorem read_switch {r : Reading} {g g' : Given} (hr : r.settle = .ok g) {s : Switch}
    {flag : String} (hflag : flag ∈ s.flags) (hg : g.turnOn s = .ok g') (rest : List String) :
    read runGrammar r (flag :: rest) = read runGrammar ⟨g', .nothing⟩ rest := by
  refine (isFlag_switch hflag).read_cons ?_ rest
  simp only [turnOn, hr, bind, Except.bind, hg, pure, Except.pure]

/-- The value is kept as it is, and looked at when the next argument is read. -/
theorem read_setting {r : Reading} {g : Given} (hr : r.settle = .ok g) {s : Setting}
    {flag value : String} (hflag : flag ∈ s.flags) (hvalue : value.toList.head? ≠ some '-')
    (rest : List String) :
    read runGrammar r (flag :: value :: rest) = read runGrammar ⟨g, .holds s value⟩ rest := by
  have hawait : r.await s = .ok ⟨g, .awaits s⟩ := by
    simp only [await, hr, bind, Except.bind, pure, Except.pure]
  rw [(isFlag_setting hflag).read_cons hawait]
  rw [read, ofArg_eq_plain hvalue, if_neg (by decide), if_neg (by decide)]

/-- One option is read, and says what it says. -/
theorem read_use {r : Reading} {g : Given} {uses : List OptionUse} (hr : r.settle = .ok g)
    (hg : g.Says uses) {u : OptionUse} (hu : u.WellFormed)
    (hfresh : ∀ v ∈ uses, v.choice = u.choice → u.choice.Repeatable) (rest : List String) :
    ∃ r' g', r'.settle = .ok g' ∧ g'.Says (uses ++ [u]) ∧
      read runGrammar r (u.args ++ rest) = read runGrammar r' rest := by
  -- An option that cannot be repeated has not been given yet.
  cases u with
  | switch s flag =>
    have hnew : s ≠ .verbose → .switch s ∉ uses.map OptionUse.choice := fun hne hmem => by
      obtain ⟨v, hv, hchoice⟩ := List.mem_map.1 hmem
      obtain henv | hverbose := hfresh v hv hchoice
      · exact nomatch henv
      · exact hne (Choice.switch.inj hverbose)
    obtain ⟨g', hon, hsays⟩ := hg.turnOn hu hnew
    exact ⟨⟨g', .nothing⟩, g', rfl, hsays, read_switch hr hu hon rest⟩
  | setting s flag value =>
    obtain ⟨hflag, hempty, hhyphen, htakes⟩ := hu
    have hnew : s ≠ .env → valuesOf s uses = [] := fun hne => by
      refine valuesOf_eq_nil fun v hv hchoice => ?_
      obtain henv | hverbose := hfresh v hv hchoice
      · exact hne (Choice.setting.inj henv)
      · exact nomatch hverbose
    obtain ⟨g', hchoose, hsays⟩ := hg.choose flag hempty htakes hnew
    exact ⟨⟨g, .holds s value⟩, g', hchoose, hsays, read_setting hr hflag hhyphen rest⟩

/-- A run of options is read, and says what each of them says. -/
theorem read_uses {r : Reading} {g : Given} {before uses : List OptionUse}
    (hr : r.settle = .ok g) (hg : g.Says before) (hwell : ∀ u ∈ uses, u.WellFormed)
    (honce : (before ++ uses).Pairwise fun u v => u.choice = v.choice → v.choice.Repeatable)
    (rest : List String) :
    ∃ r' g', r'.settle = .ok g' ∧ g'.Says (before ++ uses) ∧
      read runGrammar r (uses.flatMap OptionUse.args ++ rest) = read runGrammar r' rest := by
  -- Over the options that are left.  What is given says those read so far, and what has been read
  -- need not be settled, only be such that settling it gives that.
  induction uses generalizing r g before with
  | nil => exact ⟨r, g, hr, by rwa [List.append_nil], rfl⟩
  | cons u uses ih =>
    have hfresh : ∀ v ∈ before, v.choice = u.choice → u.choice.Repeatable := fun v hv =>
      (List.pairwise_append.1 honce).2.2 v hv u List.mem_cons_self
    obtain ⟨r₁, g₁, hr₁, hg₁, hread₁⟩ := read_use hr hg (hwell u List.mem_cons_self) hfresh
      (uses.flatMap OptionUse.args ++ rest)
    rw [List.append_cons] at honce
    obtain ⟨r₂, g₂, hr₂, hg₂, hread₂⟩ :=
      ih hr₁ hg₁ (fun v hv => hwell v (List.mem_cons_of_mem u hv)) honce
    refine ⟨r₂, g₂, hr₂, by rwa [List.append_cons], ?_⟩
    rw [List.flatMap_cons, List.append_assoc, hread₁, hread₂]

/-! ### Reading the command -/

/-- After the divider everything is the command. -/
theorem read_divider {r : Reading} {g : Given} (hr : r.settle = .ok g) (args : List String) :
    read runGrammar r ("--" :: args) = .ok (g, args) := by
  rw [read, if_pos (by decide), command, if_pos (.inl rfl), hr]
  rfl

/-- A command begins with an argument that does not begin with a hyphen, and is everything from
    there on. -/
theorem read_command {r : Reading} {g : Given} (hr : r.settle = .ok g) {arg : String}
    (harg : arg.toList.head? ≠ some '-') (args : List String) :
    read runGrammar r (arg :: args) = .ok (g, arg :: args) := by
  rw [read, ofArg_eq_plain harg, if_neg (by decide), if_neg (by decide)]
  cases hpending : r.pending with
  | awaits s =>
    -- The argument would be the value of an option, but then the options could not be settled.
    rw [settle, hpending] at hr
    contradiction
  | nothing =>
    simp only [command, runGrammar, true_or, if_true, hr]
    rfl
  | holds s value =>
    simp only [command, runGrammar, true_or, if_true, hr]
    rfl

end Reading

/-! ### The whole command line -/

/-- What some options and a command ask for. -/
structure Asks (uses : List OptionUse) (command : List String) (o : RunOptions) : Prop where
  command : o.command = command
  cwd : o.cwd.toList = valuesOf .cwd uses
  env : List.Forall₂ Assigns (valuesOf .env uses) o.env
  noCapture : o.noCapture = true ↔ .switch .noCapture ∈ uses.map OptionUse.choice
  live : o.live = true ↔ .switch .live ∈ uses.map OptionUse.choice
  timeout : o.timeout.toList.map Except.ok = (valuesOf .timeout uses).map Duration.ofUnits?
  config : o.config.toList = valuesOf .config uses
  format : o.format.name = (valuesOf .format uses).headD "text"

theorem exists_runRequest {g : Given} {uses : List OptionUse} {command : List String}
    (hg : g.Says uses) (hwell : WellGiven uses) (hcommand : command ≠ []) :
    ∃ o, runRequest g command = .ok (.run o) ∧ Asks uses command o := by
  have hboth : (g.live && g.noCapture) = false := by
    rw [Bool.and_eq_false_iff, ← Bool.not_eq_true, ← Bool.not_eq_true, hg.live, hg.noCapture]
    exact not_and_or.1 hwell.exclusive
  refine ⟨_, by rw [runRequest, hboth, if_neg (by decide), if_neg hcommand], ?_⟩
  refine ⟨rfl, hg.cwd, hg.env, hg.noCapture, hg.live, hg.timeout, hg.config, ?_⟩
  rw [← hg.format]
  cases g.format <;> rfl

end CommandLine

namespace RunOptions

/-- The steps that make the command of a run. -/
def parts (o : RunOptions) : List CommandBuilder.Part :=
  [.args o.command.tail, .live o.live, .capture (if o.noCapture then .discarded else .captured)] ++
    (o.cwd.map .currentDir).toList ++ (if o.env = [] then [] else [.envs o.env]) ++
    (o.timeout.map .timeout).toList

theorem toCommand_eq (o : RunOptions) :
    o.toCommand =
      (o.parts.foldl CommandBuilder.add (CommandBuilder.start (o.command.headD ""))).build := rfl

/-- A command has all that a run says of it. -/
structure Carries (o : RunOptions) (c : Command) : Prop where
  args : c.args = o.command
  workingDir : c.workingDir = o.cwd
  env_eq_none_iff : c.env = none ↔ o.env = []
  env : ∀ overlay, c.env = some overlay →
    (overlay.map (·.1)).Nodup ∧ ∀ name, overlay.get? name = Overlay.assigned o.env name
  capture : c.capture = if o.noCapture then .discarded else .captured
  live : c.live = o.live
  timeout : c.timeout = o.timeout

variable {o : RunOptions}

theorem toCommand_of_not_blank (h : Text.blank (o.command.headD "") = false) :
    o.toCommand = .ok ⟨o.command.headD "", o.command.tail, h, o.cwd,
      if o.env = [] then none else some (Overlay.insertAll [] o.env),
      if o.noCapture then .discarded else .captured, o.live, o.timeout⟩ := by
  rw [toCommand_eq, CommandBuilder.build_foldl_add h, CommandBuilder.setLast_plain]
  by_cases henv : o.env = [] <;> cases hcwd : o.cwd <;> cases htimeout : o.timeout <;>
    simp [parts, henv, hcwd, htimeout, CommandBuilder.varsOf_cons, CommandBuilder.Part.vars?,
      CommandBuilder.Part.arguments, CommandBuilder.Part.currentDir?, CommandBuilder.Part.live?,
      CommandBuilder.Part.capture?, CommandBuilder.Part.timeout?]

/-- A run makes a command just if the first word of its command is not blank. -/
theorem exists_toCommand_iff (o : RunOptions) :
    (∃ c, o.toCommand = .ok c) ↔ Text.blank (o.command.headD "") = false :=
  CommandBuilder.exists_build_iff _ o.parts

theorem carries_of_toCommand {c : Command} (hcommand : o.command ≠ [])
    (h : o.toCommand = .ok c) : Carries o c := by
  have hblank := (exists_toCommand_iff o).1 ⟨c, h⟩
  obtain rfl := Except.ok.inj (h.symm.trans (toCommand_of_not_blank hblank))
  obtain ⟨program, arguments, hcons⟩ := List.exists_cons_of_ne_nil hcommand
  constructor
  case args => simp [Command.args, hcons]
  case env_eq_none_iff => simp
  case env =>
    intro overlay hoverlay
    obtain ⟨-, hsome⟩ := Option.ite_none_left_eq_some.1 hoverlay
    obtain rfl := Option.some.inj hsome
    refine ⟨Overlay.nodup_insertAll (o := []) List.nodup_nil o.env, fun name => ?_⟩
    rw [Overlay.get?_insertAll, Overlay.get?_nil, Option.or_none]
  all_goals rfl

end RunOptions

namespace CommandLine

theorem ofArgs_run {args command : List String} {g : Given} {o : RunOptions}
    (hread : Reading.read runGrammar .start args = .ok (g, command))
    (ho : runRequest g command = .ok (.run o)) :
    ofArgs ("run" :: args) = .ok ⟨overridden 0 g.verbosity, .run o⟩ := by
  unfold ofArgs readTop
  rw [if_pos (by decide)]
  unfold readVerb
  rw [if_pos rfl, hread]
  simp only [bind, Except.bind, ho, pure, Except.pure]
  rfl

/-- A command line with options that go together and a command is read as what it says. -/
theorem exists_ofArgs_run {uses : List OptionUse} {command divider : List String}
    (hwell : WellGiven uses) (hcommand : command ≠ [])
    (hdivider : divider = ["--"] ∨
      divider = [] ∧ (command.headD "").toList.head? ≠ some '-') :
    ∃ (g : Given) (o : RunOptions),
      ofArgs ("run" :: (uses.flatMap OptionUse.args ++ (divider ++ command))) =
        .ok ⟨overridden 0 g.verbosity, .run o⟩ ∧
      g.Says uses ∧ Asks uses command o := by
  -- The options are read first, and what is left after them is the command.
  obtain ⟨r, g, hr, hg, hread⟩ := Reading.read_uses (r := .start) rfl Given.says_nothing
    hwell.wellFormed hwell.once (divider ++ command)
  rw [List.nil_append] at hg
  have hrest : Reading.read runGrammar r (divider ++ command) = .ok (g, command) := by
    obtain rfl | ⟨rfl, hhyphen⟩ := hdivider
    · exact Reading.read_divider hr command
    · obtain ⟨word, words, rfl⟩ := List.exists_cons_of_ne_nil hcommand
      exact Reading.read_command hr hhyphen words
  obtain ⟨o, ho, hasks⟩ := exists_runRequest hg hwell hcommand
  exact ⟨g, o, ofArgs_run (hread.trans hrest) ho, hg, hasks⟩

/-- **Nothing on a command line is taken for something else.**  Some options that go together, in
    any order, and a command that is not empty, after a divider or beginning with no hyphen, ask
    for what the options say and for that command, word for word.  It makes a command for the
    child just if its first word is not blank; that has these words as its arguments, and an
    overlay just if some variable was given, with the last value of each. -/
theorem ofArgs_run_verbatim {uses : List OptionUse} {command divider : List String}
    (hwell : WellGiven uses) (hcommand : command ≠ [])
    (hdivider : divider = ["--"] ∨
      divider = [] ∧ (command.headD "").toList.head? ≠ some '-') :
    ∃ n o, ofArgs ("run" :: (uses.flatMap OptionUse.args ++ (divider ++ command))) =
        .ok ⟨n, .run o⟩ ∧
      n = min ((uses.map OptionUse.choice).count (.switch .verbose)) Given.maxVerbosity ∧
      Asks uses command o ∧
      ((∃ c, o.toCommand = .ok c) ↔ Text.blank (command.headD "") = false) ∧
      ∀ c, o.toCommand = .ok c →
        o.Carries c ∧ c.args = command ∧ (c.env = none ↔ valuesOf .env uses = []) := by
  obtain ⟨g, o, hargs, hg, hasks⟩ := exists_ofArgs_run hwell hcommand hdivider
  have hbuilds : (∃ c, o.toCommand = .ok c) ↔ Text.blank (command.headD "") = false :=
    hasks.command ▸ o.exists_toCommand_iff
  refine ⟨_, o, hargs, ?_, hasks, hbuilds, fun c hc => ?_⟩
  · rw [← hg.verbosity, overridden]
    split
    · rename_i hzero
      exact hzero.symm
    · rfl
  · have hcarries : o.Carries c := o.carries_of_toCommand (hasks.command ▸ hcommand) hc
    refine ⟨hcarries, hcarries.args.trans hasks.command, hcarries.env_eq_none_iff.trans ?_⟩
    rw [← List.length_eq_zero_iff, ← List.length_eq_zero_iff, hasks.env.length_eq]

/-- Options of most kinds, some of them repeated. -/
def mixedUses : List OptionUse :=
  [.setting .env "-e" "A=1=2", .switch .verbose "-v", .setting .cwd "-C" "d",
    .switch .live "--live", .setting .timeout "--timeout" "0", .setting .env "--env" "A=",
    .setting .config "--config" "f", .setting .format "--format" "json", .switch .verbose "-v"]

theorem wellGiven_mixedUses : WellGiven mixedUses := by
  refine ⟨?_, by decide, by decide⟩
  have hlong : Assigns "A=1=2" ("A", "1=2") := ⟨by decide, by decide, rfl⟩
  have hempty : Assigns "A=" ("A", "") := ⟨by decide, by decide, rfl⟩
  simp only [mixedUses, List.forall_mem_cons]
  refine ⟨?_, ?_, ?_, ?_, ?_, ?_, ?_, ?_, ?_, List.forall_mem_nil _⟩
  · exact ⟨by decide, by decide, by decide, _, hlong⟩
  · exact (by decide : "-v" ∈ Switch.verbose.flags)
  · exact ⟨by decide, by decide, by decide, trivial⟩
  · exact (by decide : "--live" ∈ Switch.live.flags)
  · exact ⟨by decide, by decide, by decide, .zero, rfl⟩
  · exact ⟨by decide, by decide, by decide, _, hempty⟩
  · exact ⟨by decide, by decide, by decide, trivial⟩
  · exact ⟨by decide, by decide, by decide, .json, rfl⟩
  · exact (by decide : "-v" ∈ Switch.verbose.flags)

/-- What looks like options after the divider is the command. -/
theorem ofArgs_run_verbatim_mixed :
    WellGiven mixedUses ∧
    ∃ n o, ofArgs ["run", "-e", "A=1=2", "-v", "-C", "d", "--live", "--timeout", "0", "--env", "A=",
        "--config", "f", "--format", "json", "-v", "--", "--live", "--", ""] = .ok ⟨n, .run o⟩ ∧
      n = 2 ∧ Asks mixedUses ["--live", "--", ""] o ∧
      ∃ c, o.toCommand = .ok c ∧ c.args = ["--live", "--", ""] ∧ c.env ≠ none := by
  obtain ⟨n, o, hargs, hn, hasks, hbuilds, hcommand⟩ :=
    ofArgs_run_verbatim wellGiven_mixedUses (show ["--live", "--", ""] ≠ [] by decide) (.inl rfl)
  obtain ⟨c, hc⟩ := hbuilds.2 (by decide)
  obtain ⟨-, hcargs, henv⟩ := hcommand c hc
  have hoverlay : c.env ≠ none := fun hnone => nomatch henv.1 hnone
  exact ⟨wellGiven_mixedUses, n, o, hargs, hn, hasks, c, hc, hcargs, hoverlay⟩

end CommandLine

end Outflow
