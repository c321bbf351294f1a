import AslBuild.Proofs.Session.Compiler
import AslBuild.Proofs.Session.Rejection
set_option autoImplicit false

/-!
# Directives that the compiler is given

The compiler is given directives in a script and on its command line, and splits each into words at
the blanks. A file name in a directive is only read as it was meant if it holds no blank. So a
session that follows a script refuses a working directory whose path holds one, before any tool is
called. What runs MLIR does not look: there a blank in the path tears the name of the output file
apart.

## Main definitions

* `AslBuild.Session.orders` — the directives on the command line of the compiler.

## Main results

* `AslBuild.Session.execute_splits` — a blank in the path is refused, and directives split into
  their own words.
* `AslBuild.Session.exists_torn_directive` — a session that gives the compiler a directive which
  splits into other words.
-/

namespace AslBuild

open FileSystem

/-- A file below a directory has a blank in its path exactly if the directory or its name has one.
-/
lemma Path.hasBlank_join {p child : Path} (h : child.isAbsolute = false) :
    Text.hasBlank (p.join child).text = (Text.hasBlank p.text || Text.hasBlank child.text) := by
  rcases text_join (p := p) h with ⟨htext, -⟩ | htext
  · rw [htext, Text.hasBlank_append]
  · have hslash : Text.hasBlank "/" = false := by decide
    rw [htext, Text.hasBlank_append, Text.hasBlank_append, hslash, Bool.or_false]

/-- Whether a text is a directive: it starts with the mark. -/
def Stage.isMarked (text : String) : Bool := text.toList.head? == some Stage.mark

namespace Session

variable {s : Session} {inputs : List Path} {ws : Workspace}

/-! ## The command line -/

/-- The directives that the compiler is given on its command line. -/
def orders (s : Session) (ws : Workspace) : CompilerTask → List Stage
  | .follow => Stage.given s.settings.boundedInts ⟨.xformBounded, []⟩
  | .mlir => [⟨.filterReachableFrom, ["exports"]⟩,
      ⟨.generateMlir, ["--output-file=" ++ ws.mlirFile.text]⟩, ⟨.quit, []⟩]
  | .interpret => Stage.given s.settings.boundedInts ⟨.xformBounded, []⟩ ++ [⟨.quit, []⟩]

/-- Before the task is told, the only directive is the one for bounded integers. -/
lemma valuesOf_exec_compiler (s : Session) :
    Command.valuesOf "--exec=" s.compiler.arguments =
      (Stage.given s.settings.boundedInts ⟨.xformBounded, []⟩).map Stage.text := by
  have hshared : ∀ constraints runtime bounded : Bool,
      Command.valuesOf "--exec=" (sharedOptions constraints runtime bounded) =
        (Stage.given bounded ⟨.xformBounded, []⟩).map Stage.text := by decide
  exact hshared _ _ _

/-- The line of a stage is a directive. -/
lemma isMarked_text (stage : Stage) : Stage.isMarked stage.text = true := by
  rw [Stage.isMarked, Stage.toList_text]
  rfl

/-- **The directives on the command line** are the lines of its orders. -/
lemma valuesOf_exec (s : Session) (ws : Workspace) (task : CompilerTask) :
    (Command.valuesOf "--exec=" (s.optionsFor ws task)).filter Stage.isMarked =
      (s.orders ws task).map Stage.text := by
  have hmarked (stages : List Stage) :
      (stages.map Stage.text).filter Stage.isMarked = stages.map Stage.text :=
    List.filter_eq_self.2 (List.forall_mem_map.2 fun stage _ => isMarked_text stage)
  cases task with
  | follow =>
    rw [optionsFor, Command.valuesOf_append, Command.valuesOf_append, valuesOf_exec_compiler,
      valuesOf_script (by decide), valuesOf_files (by decide), List.append_nil, List.append_nil]
    exact hmarked _
  | mlir =>
    have hfile : "--exec=" ++ Stage.text ⟨.generateMlir, ["--output-file=" ++ ws.mlirFile.text]⟩ =
        "--exec=:generate_mlir --output-file=" ++ ws.mlirFile.text := by
      rw [← String.toList_inj, String.toList_append, Stage.toList_text, String.toList_append]
      simp [Stage.lineWords, Stage.mark, Directive.name, List.intercalate]
    have hoptions : s.optionsFor ws .mlir = (["--batchmode"] ++ [ws.symbolFile].map
        configurationOption) ++ (s.orders ws .mlir).map fun stage => "--exec=" ++ stage.text := by
      simp only [orders, List.map_cons, List.map_nil, hfile]
      rfl
    have hbatch : Command.valuesOf "--exec=" ["--batchmode"] = [] := by decide
    rw [hoptions, Command.valuesOf_append, Command.valuesOf_append, hbatch,
      valuesOf_files (by decide), Command.valuesOf_map]
    exact hmarked _
  | interpret =>
    have hafter : (Command.valuesOf "--exec="
        ["--exec=let result = main();", "--exec=:quit"]).filter Stage.isMarked =
          [Stage.text ⟨.quit, []⟩] := by decide
    rw [optionsFor, Command.valuesOf_append, List.filter_append, valuesOf_exec_compiler, hafter,
      hmarked, orders, List.map_append]
    rfl

/-- **The directives on the command line split into their own words**, unless MLIR is generated in a
directory with a blank in its path. -/
lemma isWritable_orders_iff (s : Session) (ws : Workspace) (task : CompilerTask) :
    (∀ stage ∈ s.orders ws task, stage.IsWritable) ↔
      (task = .mlir → Text.hasBlank ws.path.text = false) := by
  have hbounded : ∀ stage ∈ Stage.given s.settings.boundedInts ⟨.xformBounded, []⟩,
      stage.IsWritable := Settings.forall_mem_given.2 fun _ => Stage.isWritable_nil _
  cases task with
  | follow => exact iff_of_true hbounded (by simp)
  | mlir =>
    have hexports : Text.IsWord "exports" := Text.isWord_ofList (by decide)
    have houtput : Text.IsWord "--output-file=" := Text.isWord_ofList (by decide)
    have hname : Text.hasBlank "asl.mlir" = false := by decide
    have hpath : Text.hasBlank ws.mlirFile.text = Text.hasBlank ws.path.text := by
      rw [Workspace.mlirFile, Path.hasBlank_join (by decide), hname, Bool.or_false]
    have hfile : Text.IsWord ("--output-file=" ++ ws.mlirFile.text) ↔
        Text.hasBlank ws.path.text = false := by
      rw [← hpath]
      refine ⟨fun h => ?_, houtput.append⟩
      have hnone := h.2
      rw [Text.hasBlank_append, Bool.or_eq_false_iff] at hnone
      exact hnone.2
    simp only [orders, List.forall_mem_cons, Stage.isWritable_cons, Stage.isWritable_nil, hexports,
      hfile, List.not_mem_nil, false_implies, implies_true, and_true, true_and, forall_const]
  | interpret =>
    refine iff_of_true ?_ (by simp)
    rw [orders, List.forall_mem_append, List.forall_mem_singleton]
    exact ⟨hbounded, Stage.isWritable_nil _⟩

/-! ## Sessions in a directory with a blank in its path -/

/-- There is no pipeline into a directory with a blank in its path. -/
lemma pipelineInto_of_blank (hcheck : s.settings.checkSession inputs = .ok ()) {dir : String}
    (hblank : Text.hasBlank dir = true) :
    s.settings.pipelineInto dir = .error (.invalid (.blankInDirectory dir)) :=
  (Settings.pipelineInto_eq_error_iff (Settings.checkPipeline_of_checkSession hcheck)).2
    (Or.inl ⟨hblank, rfl⟩)

/-- With a blank in the path of the working directory nothing is planned if a script is to be
followed. -/
lemma calls_plan_of_blank {t : Toolchain} (hcheck : s.settings.checkSession inputs = .ok ())
    (htask : s.task? = some .follow) (hblank : Text.hasBlank ws.path.text = true) :
    (s.plan inputs ws t).calls = [] := by
  have hbuild : (s.buildPlan inputs ws t).calls = [] := by
    rw [buildPlan, pipelineInto_of_blank hcheck hblank]
    rfl
  rw [plan, hcheck, Plan.provided_ok]
  unfold task? at htask
  unfold dispatchPlan
  split at htask <;> simp_all

/-- **With a blank in the path of the working directory**, a session that is to follow a script ends
with just that objection, once it has acquired the directory. -/
lemma execute_of_blank {σ : Type} {r : Runner σ} {w w₁ : World σ}
    (hcheck : s.settings.checkSession inputs = .ok ()) (htask : s.task? = some .follow)
    (hacquire : (Workspace.acquire s.settings.workingDir s.settings.keepFiles
      s.settings.verbose).run w = (.ok ws, w₁)) (hblank : Text.hasBlank ws.path.text = true) :
    ((s.execute r inputs).run w).1 = .error (.invalid (.blankInDirectory ws.path.text)) := by
  have hbuild : (s.build r inputs ws).run w₁ =
      (.error (.invalid (.blankInDirectory ws.path.text)), w₁) :=
    Act.bind_error (by rw [Act.run_ofExcept, pipelineInto_of_blank hcheck hblank])
  rw [run_execute hcheck, dispatch_of_steps? (steps?_of_follow htask), run_inWorkspace hacquire,
    hbuild]
  rfl

/-- **A blank in the path of the working directory is refused**, and directives split into their own
words. If the settings are accepted, a session that is to follow a script in such a directory calls
no tool, and ends with this objection, unless the directory cannot be acquired. So every stage of
its script splits at the blanks into the name, with the mark, and the arguments. The directives on
the command line of the compiler do so as well, with one exception: if MLIR is generated in a
directory with a blank in its path.

**Proof sketch.** The pipeline for a directory with a blank in its path is refused, and without it
nothing is planned (`calls_plan_of_blank`). The words of a line are the ones that it was made of
exactly if the arguments are words (`Stage.words_text_iff`); in a pipeline they are, and on the
command line only the path of the MLIR file is not fixed. -/
theorem execute_splits {σ : Type} (s : Session) (r : Runner σ) (inputs : List Path) (w : World σ)
    (hcheck : s.settings.checkSession inputs = .ok ()) :
    let done := (s.execute r inputs).run w
    let dir := Workspace.acquiredPath s.settings.workingDir w.disk
    (s.task? = some .follow → Text.hasBlank dir.text = true →
      Event.calls done.2.journal = Event.calls w.journal ∧ done.2.tools = w.tools ∧
        (done.1 = .error (.invalid (.blankInDirectory dir.text)) ∨
          ∃ path cause w₁, done = (.error (.workspace path cause), w₁) ∧
            (Workspace.acquire s.settings.workingDir s.settings.keepFiles
              s.settings.verbose).run w = (.error (.workspace path cause), w₁))) ∧
    (∀ p, s.settings.pipelineInto dir.text = .ok p → ∀ stage ∈ p.stages,
      Text.words stage.text = (Stage.mark.toString ++ stage.directive.name) :: stage.arguments) ∧
    ∀ (ws : Workspace) (task : CompilerTask), ws.path = dir →
      (Command.valuesOf "--exec=" (s.optionsFor ws task)).filter Stage.isMarked =
        (s.orders ws task).map Stage.text ∧
      ((∀ stage ∈ s.orders ws task, Text.words stage.text =
        (Stage.mark.toString ++ stage.directive.name) :: stage.arguments) ↔
          (task = .mlir → Text.hasBlank dir.text = false)) := by
  intro done dir
  refine ⟨fun htask hblank => ?_, fun p hp stage hstage => ?_, fun ws task hpath => ?_⟩
  · obtain ⟨ws, t, hpath, events, hjournal, hends, htools⟩ := keepsTo_execute r s inputs w
    have hfirst := hends.bare_made
    rw [calls_plan_of_blank hcheck htask (by rw [hpath]; exact hblank)] at hfirst
    have hnone : Event.calls events = [] := List.map_eq_nil_iff.1 (List.prefix_nil.1 hfirst)
    refine ⟨?_, htools hnone, ?_⟩
    · rw [hjournal, Event.calls_append, hnone, List.append_nil]
    · rcases hacquire : (Workspace.acquire s.settings.workingDir s.settings.keepFiles
        s.settings.verbose).run w with ⟨e | ws, w₁⟩
      · obtain ⟨⟨path, cause, rfl⟩, -, -⟩ := Workspace.acquire_eq_error hacquire
        exact Or.inr ⟨path, cause, w₁, run_execute_of_no_directory hcheck
          (steps?_of_follow htask) hacquire, rfl⟩
      · obtain ⟨-, -, hpath, -, -⟩ := Workspace.acquire_eq_ok hacquire
        refine Or.inl ?_
        have hend := execute_of_blank (r := r) hcheck htask hacquire (by rw [hpath]; exact hblank)
        rw [hpath] at hend
        exact hend
  · exact Stage.words_text_iff.2 (Settings.isWritable_of_pipelineInto hp stage hstage)
  · simp only [Stage.words_text_iff]
    rw [← hpath]
    exact ⟨valuesOf_exec s ws task, isWritable_orders_iff s ws task⟩

/-- The directory `my work` is refused, and the compiler is not called. -/
theorem execute_splits_inMyWork :
    let done := (inMyWork.execute (Rehearsal.runner {}) ["spec.asl"]).run withNotes
    inMyWork.settings.checkSession ["spec.asl"] = .ok () ∧ inMyWork.task? = some .follow ∧
      Event.calls done.2.journal = [] ∧ done.2.tools = [] ∧
      done.1 = .error (.invalid (.blankInDirectory "my work")) := by
  intro done
  have hcheck : inMyWork.settings.checkSession ["spec.asl"] = .ok () := rfl
  obtain ⟨hblank, -, -⟩ :=
    execute_splits inMyWork (Rehearsal.runner {}) ["spec.asl"] withNotes hcheck
  obtain ⟨hcalls, htools, hend⟩ := hblank rfl (by decide)
  refine ⟨hcheck, rfl, hcalls, htools, ?_⟩
  rcases hend with hend | ⟨path, cause, w₁, -, hacquire⟩
  · exact hend
  · have hsuccess : Work.failureIn? ((Workspace.acquire inMyWork.settings.workingDir
        inMyWork.settings.keepFiles inMyWork.settings.verbose).run withNotes).1 = none := by
      decide +kernel
    rw [hacquire] at hsuccess
    exact absurd hsuccess (by simp [Work.failureIn?])

/-- A session that runs MLIR in a directory whose path holds a blank. -/
def mlirInMyWork : Session where
  settings := { action := .run, backend := .mlir, workingDir := some "my work" }
  installation := ⟨"/opt/asli"⟩

/-- **A directive may be torn apart**: with MLIR, a directory whose path holds a blank is not
refused, and the name of the output file is read as two words. -/
theorem exists_torn_directive :
    ∃ (s : Session) (r : Runner (List String)) (inputs : List Path) (w : World (List String))
      (c : Command),
      s.settings.checkSession inputs = .ok () ∧
        Text.hasBlank (Workspace.acquiredPath s.settings.workingDir w.disk).text = true ∧
        (.run, c, none) ∈ Event.calls ((s.execute r inputs).run w).2.journal ∧
        c.program = s.installation.program.text ∧
        ":generate_mlir --output-file=my work/asl.mlir" ∈
          Command.valuesOf "--exec=" c.arguments ∧
        Text.words ":generate_mlir --output-file=my work/asl.mlir" =
          [":generate_mlir", "--output-file=my", "work/asl.mlir"] :=
  ⟨mlirInMyWork, Rehearsal.runner {}, ["spec.asl"], withNotes,
    mlirInMyWork.mlirCommand ⟨"my work", .given "my work", false, false⟩ ["spec.asl"],
    rfl, by decide, by decide +kernel, rfl, by decide +kernel, by decide⟩

end Session

end AslBuild
