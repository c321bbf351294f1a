import AslBuild.Proofs.Session.Objects
import Mathlib.Data.List.Basic
set_option autoImplicit false

/-!
# What the compiler is told

A session that reads input files has the compiler do one of three tasks with them: follow a script,
generate MLIR, or interpret the program. The first thing that the session calls is the compiler, and
what it calls after that is settled by the task. The task also settles what the compiler is told. If
it follows a script, it is told all that the settings say of checks and of configuration files. If
it generates MLIR, it is told nothing of the checks and only of the symbol file; if it interprets
the program, it is told of no configuration file.

## Main definitions

* `AslBuild.Command.valuesOf` — what is given for an option.
* `AslBuild.CompilerTask`, `AslBuild.Session.task?` — what a session has the compiler do.
* `AslBuild.Session.compilerRun`, `AslBuild.Session.allCalls` — the run of the compiler for a task,
  and the calls of a session that nothing ends early.
* `AslBuild.Settings.ToldBy` — options that tell all that the settings say.

## Main results

* `AslBuild.Session.execute_calls` — a session makes the first ones of its calls.
* `AslBuild.Session.execute_tells` — what the compiler is told, and when it is told everything.
* `AslBuild.Session.exists_untold` — a session whose compiler is told neither of the checks nor of
  a further configuration file.
-/

namespace AslBuild

/-! ## Values of options -/

namespace Command

/-- What an argument gives for an option, if it is that option. -/
def value? (option argument : String) : Option String :=
  (argument.toList.dropPrefix? option.toList).map String.ofList

/-- What some arguments give for an option, in their order. -/
def valuesOf (option : String) (arguments : List String) : List String :=
  arguments.filterMap (value? option)

/-- An option with something behind it gives just that. -/
@[simp] lemma value?_append (option value : String) : value? option (option ++ value) = some value
    := by
  have hdrop : (option ++ value).toList.dropPrefix? option.toList = some value.toList :=
    List.dropPrefix?_eq_some_iff.2 ⟨option.toList, String.toList_append, beq_self_eq_true _⟩
  rw [value?, hdrop, Option.map_some, String.ofList_toList]

/-- An argument that does not start with an option gives nothing for it. -/
lemma value?_eq_none {option argument : String} (h : ¬ option.toList <+: argument.toList) :
    value? option argument = none := by
  rw [value?, Option.map_eq_none_iff, Option.eq_none_iff_forall_ne_some]
  intro rest hdrop
  obtain ⟨start, hsplit, hstart⟩ := List.dropPrefix?_eq_some_iff.1 hdrop
  rw [eq_of_beq hstart] at hsplit
  exact h ⟨rest, hsplit.symm⟩

@[simp] lemma valuesOf_append (option : String) (as bs : List String) :
    valuesOf option (as ++ bs) = valuesOf option as ++ valuesOf option bs :=
  List.filterMap_append

/-- Arguments none of which starts with an option give nothing for it. -/
lemma valuesOf_eq_nil {option : String} {arguments : List String}
    (h : ∀ a ∈ arguments, ¬ option.toList <+: a.toList) : valuesOf option arguments = [] :=
  List.filterMap_eq_nil_iff.2 fun a ha => value?_eq_none (h a ha)

/-- An option that is given for each of some things gives them in their order. -/
lemma valuesOf_map {α : Type} (option : String) (value : α → String) (xs : List α) :
    valuesOf option (xs.map fun x => option ++ value x) = xs.map value := by
  rw [valuesOf, List.filterMap_map, ← List.filterMap_eq_map]
  exact List.filterMap_congr fun x _ => value?_append option (value x)

/-- Two texts neither of which starts the other. -/
def Apart (option other : String) : Prop :=
  ¬ option.toList <+: other.toList ∧ ¬ other.toList <+: option.toList

instance (option other : String) : Decidable (Apart option other) :=
  inferInstanceAs (Decidable (_ ∧ _))

/-- What is given for another option is not given for an option. -/
lemma valuesOf_map_other {α : Type} {option other : String} (h : Apart option other)
    (value : α → String) (xs : List α) :
    valuesOf option (xs.map fun x => other ++ value x) = [] := by
  refine valuesOf_eq_nil (List.forall_mem_map.2 fun x _ hstart => ?_)
  rw [String.toList_append] at hstart
  exact (List.prefix_or_prefix_of_prefix hstart (List.prefix_append _ _)).elim h.1 h.2

/-- Whether arguments say how a switch is set: of two flags, the first one is there exactly if it is
on, and the second one exactly if it is off. -/
def Says (arguments : List String) (on off : String) (value : Bool) : Prop :=
  (on ∈ arguments ↔ value = true) ∧ (off ∈ arguments ↔ value = false)

instance (arguments : List String) (on off : String) (value : Bool) :
    Decidable (Says arguments on off value) := inferInstanceAs (Decidable (_ ∧ _))

/-- Further arguments do not change what is said of a switch, if they are not its flags. -/
lemma Says.append {as bs : List String} {on off : String} {value : Bool}
    (h : Says as on off value) (hon : on ∉ bs) (hoff : off ∉ bs) :
    Says (as ++ bs) on off value := by
  simp only [Says, List.mem_append, hon, hoff, or_false]
  exact h

end Command

/-! ## Tasks of the compiler -/

/-- What a session has the compiler do with input files. -/
inductive CompilerTask
  /-- It follows a script. -/
  | follow
  /-- It generates MLIR. -/
  | mlir
  /-- It interprets the program. -/
  | interpret
deriving DecidableEq

namespace Session

variable {s : Session} {inputs : List Path} {ws : Workspace} {t : Toolchain}

/-- What a session has the compiler do, if it reads input files. -/
def task? (s : Session) : Option CompilerTask :=
  match s.settings.action, s.settings.backend with
  | .run, .interpreter => some .interpret
  | .run, .mlir => some .mlir
  | .run, _ => some .follow
  | .generate, _ => some .follow
  | .build, _ => some .follow
  | _, _ => none

/-- A session that follows a script does so in a working directory. -/
lemma steps?_of_follow {σ : Type} {r : Runner σ} (h : s.task? = some .follow) :
    s.steps? r inputs = some (s.build r inputs) := by
  unfold task? at h
  unfold steps?
  split at h <;> simp_all

/-- A session that generates MLIR does so in a working directory. -/
lemma steps?_of_mlir {σ : Type} {r : Runner σ} (h : s.task? = some .mlir) :
    s.steps? r inputs = some (s.runMlir r inputs) := by
  unfold task? at h
  unfold steps?
  split at h <;> simp_all

/-- **What a session does in a working directory** is that it follows a script, or runs MLIR. -/
lemma task?_of_steps? {σ : Type} {r : Runner σ}
    {steps : Workspace → Work σ (Option Path × Statistics)} (h : s.steps? r inputs = some steps) :
    s.task? = some .follow ∧ steps = s.build r inputs ∨
      s.task? = some .mlir ∧ steps = s.runMlir r inputs := by
  unfold steps? at h
  unfold task?
  split at h <;> simp_all

/-- Every other session needs no working directory. -/
lemma steps?_eq_none_iff {σ : Type} {r : Runner σ} :
    s.steps? r inputs = none ↔ s.task? ≠ some .follow ∧ s.task? ≠ some .mlir := by
  constructor
  · intro hnone
    exact ⟨fun htask => absurd ((steps?_of_follow htask).symm.trans hnone) (by simp),
      fun htask => absurd ((steps?_of_mlir htask).symm.trans hnone) (by simp)⟩
  · rintro ⟨hfollow, hmlir⟩
    refine Option.eq_none_iff_forall_ne_some.2 fun steps hsteps => ?_
    exact (task?_of_steps? hsteps).elim (fun h => hfollow h.1) fun h => hmlir h.1

/-- The run of the compiler for a task. -/
def compilerRun (s : Session) (inputs : List Path) (ws : Workspace) : CompilerTask → Command
  | .follow => s.generateCommand ws inputs
  | .mlir => s.mlirCommand ws inputs
  | .interpret => s.interpretCommand inputs

/-- What is called after the compiler was run for a task: the tools of a native build if code is to
be linked, and what runs MLIR. -/
def laterCalls (s : Session) (ws : Workspace) (t : Toolchain) :
    CompilerTask → List (CallMode × Command)
  | .follow => if s.linksCode then s.nativeCalls ws t else []
  | .mlir => [(.run, mlirProgram ws)]
  | .interpret => []

/-- The question of a session that shows flags. -/
def shownQuestion (s : Session) : List (CallMode × Command) :=
  match s.settings.action with
  | .showCompileFlags => s.question "--print-c-flags"
  | .showLinkFlags => s.question "--print-ld-flags"
  | _ => []

/-- The calls of a session that nothing ends early. -/
def allCalls (s : Session) (inputs : List Path) (ws : Workspace) (t : Toolchain) :
    List (CallMode × Command) :=
  match s.task? with
  | none => s.shownQuestion
  | some task => (.run, s.compilerRun inputs ws task) :: s.laterCalls ws t task

/-- **The calls that are planned are the first ones of a session's calls.** -/
lemma calls_plan_isPrefix_allCalls :
    (s.plan inputs ws t).calls <+: s.allCalls inputs ws t := by
  refine (calls_provided_isPrefix _ _).trans ?_
  unfold dispatchPlan allCalls task? shownQuestion
  cases s.settings.action with
  | showScript => exact calls_provided_isPrefix _ _
  | showCompileFlags | showLinkFlags => exact calls_provided_isPrefix _ _
  | generate | build => exact calls_buildPlan_isPrefix
  | run =>
    cases s.settings.backend with
    | interpreter | mlir => exact List.prefix_rfl
    | ac | c23 | fallback | sc => exact calls_buildPlan_isPrefix

/-- **A session makes the first ones of its calls**, one after the other, and goes on only after a
call that succeeded. Without a call, its runner is left as it was. -/
theorem execute_calls {σ : Type} (s : Session) (r : Runner σ) (inputs : List Path) (w : World σ) :
    let done := ((s.execute r inputs).run w).2
    ∃ (ws : Workspace) (t : Toolchain) (events : List Event),
      ws.path = Workspace.acquiredPath s.settings.workingDir w.disk ∧
        done.journal = w.journal ++ events ∧
        (Event.calls events).map Plan.bare <+: s.allCalls inputs ws t ∧
        (∀ call ∈ (Event.calls events).dropLast, call.2.2 = none) ∧
        (Event.calls events = [] → done.tools = w.tools) := by
  intro done
  obtain ⟨ws, t, hpath, events, hjournal, hends, htools⟩ := keepsTo_execute r s inputs w
  exact ⟨ws, t, events, hpath, hjournal, hends.bare_made.trans calls_plan_isPrefix_allCalls,
    hends.dropLast_succeeded, htools⟩

/-! ## What the compiler is told -/

/-- The options for a task, which stand in front of the input files. -/
def optionsFor (s : Session) (ws : Workspace) : CompilerTask → List String
  | .follow => s.compiler.arguments ++ (["--project=" ++ ws.projectFile.text] ++
      (ws.symbolFile :: s.settings.configurations).map configurationOption)
  | .mlir => ["--batchmode", configurationOption ws.symbolFile,
      "--exec=:filter_reachable_from exports",
      "--exec=:generate_mlir --output-file=" ++ ws.mlirFile.text, "--exec=:quit"]
  | .interpret => s.compiler.arguments ++ ["--exec=let result = main();", "--exec=:quit"]

/-- The configuration files that the compiler is told of for a task. -/
def configurationsFor (s : Session) (ws : Workspace) : CompilerTask → List Path
  | .follow => ws.symbolFile :: s.settings.configurations
  | .mlir => [ws.symbolFile]
  | .interpret => []

/-- The compiler is run with the options for the task, and then the input files in their order. -/
lemma compilerRun_eq (s : Session) (inputs : List Path) (ws : Workspace) (task : CompilerTask) :
    s.compilerRun inputs ws task =
      ⟨s.installation.program.text, s.optionsFor ws task ++ inputs.map Path.text⟩ := by
  cases task with
  | follow =>
    simp only [compilerRun, generateCommand, Command.plus, optionsFor, List.map_cons,
      List.append_assoc, List.cons_append, List.nil_append]
    rfl
  | mlir => rfl
  | interpret =>
    simp only [compilerRun, interpretCommand, Command.plus, optionsFor, List.append_assoc]
    rfl

/-- The options that name configuration files give nothing for another option. -/
lemma valuesOf_files {option : String} (h : Command.Apart option "--configuration=")
    (files : List Path) : Command.valuesOf option (files.map configurationOption) = [] :=
  Command.valuesOf_map_other h Path.text files

/-- The option that names the script gives nothing for another option. -/
lemma valuesOf_script {option : String} (h : Command.Apart option "--project=") (file : Path) :
    Command.valuesOf option ["--project=" ++ file.text] = [] :=
  Command.valuesOf_map_other h Path.text [file]

/-- The options that the compiler is given before it is told of the task, by what is checked and
whether integers are bounded. -/
def sharedOptions (constraints runtime bounded : Bool) : List String :=
  ["--batchmode", "--nobanner", "--check-call-markers", "--check-exception-markers",
    if constraints then "--check-constraints" else "--no-check-constraints",
    if runtime then "--runtime-checks" else "--no-runtime-checks"] ++
    if bounded then ["--exec=:xform_bounded"] else []

/-- Before the task is told, no file is named. -/
lemma valuesOf_compiler {option : String} (h : ∀ constraints runtime bounded : Bool,
      ∀ a ∈ sharedOptions constraints runtime bounded, ¬ option.toList <+: a.toList) :
    Command.valuesOf option s.compiler.arguments = [] :=
  Command.valuesOf_eq_nil (h _ _ _)

/-- **The configuration files that the compiler is told of** are those of the task. -/
lemma valuesOf_configuration (s : Session) (ws : Workspace) (task : CompilerTask) :
    Command.valuesOf "--configuration=" (s.optionsFor ws task) =
      (s.configurationsFor ws task).map Path.text := by
  have hcompiler : Command.valuesOf "--configuration=" s.compiler.arguments = [] :=
    valuesOf_compiler (by decide)
  have hnamed (files : List Path) : Command.valuesOf "--configuration="
      (files.map configurationOption) = files.map Path.text :=
    Command.valuesOf_map "--configuration=" Path.text files
  cases task with
  | follow =>
    rw [optionsFor, Command.valuesOf_append, Command.valuesOf_append, hcompiler,
      valuesOf_script (by decide), hnamed]
    rfl
  | mlir =>
    have hafter : Command.valuesOf "--configuration=" ["--exec=:filter_reachable_from exports",
        "--exec=:generate_mlir --output-file=" ++ ws.mlirFile.text, "--exec=:quit"] = [] :=
      Command.valuesOf_eq_nil (by simp)
    have hoptions : s.optionsFor ws .mlir = ["--batchmode"] ++ ([ws.symbolFile].map
        configurationOption ++ ["--exec=:filter_reachable_from exports",
          "--exec=:generate_mlir --output-file=" ++ ws.mlirFile.text, "--exec=:quit"]) := rfl
    rw [hoptions, Command.valuesOf_append, Command.valuesOf_append, hnamed, hafter,
      List.append_nil]
    rfl
  | interpret =>
    have hafter : Command.valuesOf "--configuration="
        ["--exec=let result = main();", "--exec=:quit"] = [] :=
      Command.valuesOf_eq_nil (by decide)
    rw [optionsFor, Command.valuesOf_append, hcompiler, hafter]
    rfl

end Session

/-- Whether options say which checks the settings ask for. -/
def Settings.ChecksToldBy (s : Settings) (options : List String) : Prop :=
  Command.Says options "--check-constraints" "--no-check-constraints" s.checkConstraints ∧
    Command.Says options "--runtime-checks" "--no-runtime-checks" s.checkRuntime

/-- Whether options tell all that the settings say of checks and of configuration files. -/
structure Settings.ToldBy (s : Settings) (options : List String) : Prop where
  /-- The checks are told. -/
  checks : s.ChecksToldBy options
  /-- The further configuration files are told. -/
  configurations : ∀ p ∈ s.configurations,
    p.text ∈ Command.valuesOf "--configuration=" options

namespace Session

variable {s : Session} {inputs : List Path} {ws : Workspace} {t : Toolchain}

/-- Before the task is told, the checks are. -/
lemma checksToldBy_compiler (s : Session) : s.settings.ChecksToldBy s.compiler.arguments := by
  have hsays : ∀ constraints runtime bounded : Bool,
      Command.Says (sharedOptions constraints runtime bounded) "--check-constraints"
        "--no-check-constraints" constraints ∧
      Command.Says (sharedOptions constraints runtime bounded) "--runtime-checks"
        "--no-runtime-checks" runtime := by decide
  exact hsays _ _ _

/-- The flags that tell what is checked. -/
def checkFlags : List String :=
  ["--check-constraints", "--no-check-constraints", "--runtime-checks", "--no-runtime-checks"]

/-- An option with something behind it is no check flag, if no check flag starts like this. -/
lemma not_mem_checkFlags {option : String}
    (h : ∀ flag ∈ checkFlags, ¬ option.toList <+: flag.toList) (value : String) :
    option ++ value ∉ checkFlags :=
  fun hmem => h _ hmem ⟨value.toList, String.toList_append.symm⟩

/-- The option that names a configuration file is no check flag. -/
lemma configurationOption_not_mem (p : Path) : configurationOption p ∉ checkFlags :=
  not_mem_checkFlags (by decide) p.text

/-- Further options that are no check flags do not change what is told of the checks. -/
lemma checksToldBy_append {s : Settings} {as bs : List String} (h : s.ChecksToldBy as)
    (hbs : ∀ b ∈ bs, b ∉ checkFlags) : s.ChecksToldBy (as ++ bs) := by
  have hnone {flag : String} (hflag : flag ∈ checkFlags) : flag ∉ bs :=
    fun hmem => hbs flag hmem hflag
  exact ⟨h.1.append (hnone (by decide)) (hnone (by decide)),
    h.2.append (hnone (by decide)) (hnone (by decide))⟩

/-- Options none of which is a check flag do not tell what is checked. -/
lemma not_checksToldBy {s : Settings} {options : List String}
    (h : ∀ option ∈ options, option ∉ checkFlags) : ¬ s.ChecksToldBy options := by
  rintro ⟨⟨hon, hoff⟩, -⟩
  cases hvalue : s.checkConstraints with
  | true => exact h _ (hon.2 hvalue) (by decide)
  | false => exact h _ (hoff.2 hvalue) (by decide)

/-- **The checks are told to the compiler exactly if it does not generate MLIR.** -/
lemma checksToldBy_optionsFor (s : Session) (ws : Workspace) (task : CompilerTask) :
    s.settings.ChecksToldBy (s.optionsFor ws task) ↔ task ≠ .mlir := by
  cases task with
  | follow =>
    refine iff_of_true (checksToldBy_append s.checksToldBy_compiler ?_) (by simp)
    rw [List.forall_mem_append, List.forall_mem_singleton, List.forall_mem_map]
    exact ⟨not_mem_checkFlags (by decide) _, fun p _ => configurationOption_not_mem p⟩
  | mlir =>
    refine iff_of_false (not_checksToldBy ?_) (by simp)
    simp only [optionsFor, List.forall_mem_cons]
    exact ⟨by decide, configurationOption_not_mem _, by decide, not_mem_checkFlags (by decide) _,
      by decide, by simp⟩
  | interpret =>
    exact iff_of_true (checksToldBy_append s.checksToldBy_compiler (by decide)) (by simp)

/-- **All that the settings say is told to the compiler** exactly if it follows a script, or if it
interprets the program and there is no further configuration file. -/
lemma toldBy_optionsFor (s : Session) (ws : Workspace) (task : CompilerTask) :
    s.settings.ToldBy (s.optionsFor ws task) ↔
      task = .follow ∨ task = .interpret ∧ s.settings.configurations = [] := by
  have htold : s.settings.ToldBy (s.optionsFor ws task) ↔ task ≠ .mlir ∧
      ∀ p ∈ s.settings.configurations, p.text ∈ (s.configurationsFor ws task).map Path.text := by
    rw [← checksToldBy_optionsFor s ws task, ← valuesOf_configuration]
    exact ⟨fun h => ⟨h.checks, h.configurations⟩, fun h => ⟨h.1, h.2⟩⟩
  rw [htold]
  cases task with
  | follow =>
    refine iff_of_true ⟨by simp, fun p hp => ?_⟩ (Or.inl rfl)
    exact List.mem_map_of_mem (List.mem_cons_of_mem _ hp)
  | mlir => simp
  | interpret => simp [configurationsFor, List.eq_nil_iff_forall_not_mem]

/-- **What the compiler is told.** A session that reads input files first runs the compiler for its
task, and then calls what comes after that. The compiler is told options and then all input files in
their order. For a script the options name the symbol file and then the further configuration files
in their order; for MLIR, only the symbol file; for the interpreter, none. They tell which checks
are asked for unless MLIR is generated. So nothing of this is left out exactly if the compiler
follows a script, or interprets the program without a further configuration file.

**Proof sketch.** A session makes the first ones of its calls (`execute_calls`). What is told of the
checks stands in the options that come before the task, and nothing that comes after them is a check
flag; those before the task name no file. -/
theorem execute_tells {σ : Type} (s : Session) (r : Runner σ) (inputs : List Path) (w : World σ) :
    let done := ((s.execute r inputs).run w).2
    ∃ (ws : Workspace) (t : Toolchain) (events : List Event),
      ws.path = Workspace.acquiredPath s.settings.workingDir w.disk ∧
        done.journal = w.journal ++ events ∧
        (Event.calls events).map Plan.bare <+: s.allCalls inputs ws t ∧
        ∀ task, ∃ options,
          s.compilerRun inputs ws task =
            ⟨s.installation.program.text, options ++ inputs.map Path.text⟩ ∧
          Command.valuesOf "--configuration=" options =
            (s.configurationsFor ws task).map Path.text ∧
          (s.settings.ChecksToldBy options ↔ task ≠ .mlir) ∧
          (s.settings.ToldBy options ↔
            task = .follow ∨ task = .interpret ∧ s.settings.configurations = []) := by
  intro done
  obtain ⟨ws, t, events, hpath, hjournal, hfirst, -, -⟩ := execute_calls s r inputs w
  exact ⟨ws, t, events, hpath, hjournal, hfirst, fun task => ⟨s.optionsFor ws task,
    compilerRun_eq s inputs ws task, valuesOf_configuration s ws task,
    checksToldBy_optionsFor s ws task, toldBy_optionsFor s ws task⟩⟩

/-- A session that runs MLIR, with both checks and a further configuration file. -/
def runningMlir : Session where
  settings := {
    action := .run
    backend := .mlir
    checkConstraints := true
    checkRuntime := true
    workingDir := some "w"
    configurations := ["extra.json"] }
  installation := ⟨"/opt/asli"⟩

/-- **The compiler may be told less than what was accepted**: to run MLIR, it is told neither of the
checks nor of the further configuration file. -/
theorem exists_untold :
    ∃ (s : Session) (r : Runner (List String)) (inputs : List Path) (w : World (List String))
      (c : Command),
      s.settings.checkSession inputs = .ok () ∧
        (.run, c, none) ∈ Event.calls ((s.execute r inputs).run w).2.journal ∧
        c.program = s.installation.program.text ∧
        s.settings.checkConstraints = true ∧ "--check-constraints" ∉ c.arguments ∧
        s.settings.checkRuntime = true ∧ "--runtime-checks" ∉ c.arguments ∧
        s.settings.configurations = ["extra.json"] ∧
        "--configuration=extra.json" ∉ c.arguments :=
  ⟨runningMlir, Rehearsal.runner {}, ["a.asl", "b.asl"], atHome,
    runningMlir.mlirCommand ⟨"w", .given "w", false, false⟩ ["a.asl", "b.asl"],
    by decide +kernel, by decide +kernel, rfl, rfl, by decide +kernel, rfl, by decide +kernel, rfl,
    by decide +kernel⟩

end Session

end AslBuild
