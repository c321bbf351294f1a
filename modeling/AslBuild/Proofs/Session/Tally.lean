import AslBuild.Proofs.Session.Linking
import AslBuild.Proofs.Session.Residue
set_option autoImplicit false

/-!
# What a session counts

At its end a session tells how many stages its script has, how many files it wrote and which tools
it ran. It counts by hand, beside the steps themselves. The journal has it too: each call and each
file that is written stands there. If the session succeeds, the two agree, and its calls are all
those that were planned.

## Main definitions

* `AslBuild.Plan.toolsRun` — the tools that are run by some calls.
* `AslBuild.Work.Makes` — what a step that succeeds calls and writes, and what it gives.
* `AslBuild.Workspace.filesFor` — the files that are written for a task of the compiler.
* `AslBuild.Statistics.Counts` — statistics that agree with calls, files and a script.
* `AslBuild.Session.Accounts` — a report that agrees with what the session did.

## Main results

* `AslBuild.Work.Makes.bind` — what a sequence calls and writes.
* `AslBuild.Session.makes_build`, `AslBuild.Session.makes_runMlir` — what is counted in a working
  directory.
* `AslBuild.Session.execute_counts` — what a session counts is what it did.
-/

namespace AslBuild

open FileSystem

/-! ## Tools that are run -/

namespace Plan

/-- The short names of the tools that are run by some calls, in their order. A tool that is only
asked does not count. -/
def toolsRun (calls : List (CallMode × Command)) : List String :=
  (calls.filter fun call => call.1 = .run).map fun call => call.2.tool

@[simp] lemma toolsRun_append (as bs : List (CallMode × Command)) :
    toolsRun (as ++ bs) = toolsRun as ++ toolsRun bs := by
  rw [toolsRun, List.filter_append, List.map_append]
  rfl

/-- A tool that is run counts. -/
@[simp] lemma toolsRun_cons (c : Command) (calls : List (CallMode × Command)) :
    toolsRun ((.run, c) :: calls) = c.tool :: toolsRun calls := rfl

@[simp] lemma toolsRun_nil : toolsRun [] = [] := rfl

end Plan

/-- A question does not count. -/
@[simp] lemma Session.toolsRun_question (s : Session) (flag : String) :
    Plan.toolsRun (s.question flag) = [] := by
  unfold question
  split <;> rfl

/-! ## What steps call and write -/

namespace Work

variable {σ α β : Type} {p q : α → List (CallMode × Command) → List Path → Prop}

/-- A step that succeeds made some calls, none of which failed, and wrote some files; and what it
gives, the calls and the files are as `q` says. -/
def Makes (x : Work σ α) (q : α → List (CallMode × Command) → List Path → Prop) : Prop :=
  ∀ w a w', x.run w = (.ok a, w') → ∃ calls events, w'.journal = w.journal ++ events ∧
    Event.calls events = calls.map Plan.succeeded ∧ q a calls (Event.written events)

/-- What is said of calls and files may be weakened. -/
lemma Makes.mono {x : Work σ α} (hx : x.Makes p) (h : ∀ a calls files, p a calls files →
    q a calls files) : x.Makes q := by
  intro w a w' hrun
  obtain ⟨calls, events, hjournal, hcalls, hp⟩ := hx w a w' hrun
  exact ⟨calls, events, hjournal, hcalls, h a _ _ hp⟩

/-- **What a sequence calls and writes**: what its first part does, and then what its second part
does. -/
lemma Makes.bind {x : Work σ α} {f : α → Work σ β}
    {q : β → List (CallMode × Command) → List Path → Prop} (hx : x.Makes p)
    (hf : ∀ a calls files, p a calls files → (f a).Makes fun b calls' files' =>
      q b (calls ++ calls') (files ++ files')) : (x >>= f).Makes q := by
  intro w b w'' hrun
  obtain ⟨a, w', hfirst, hsecond⟩ := Act.exists_of_bind_eq_ok hrun
  obtain ⟨calls, events, hjournal, hcalls, hp⟩ := hx w a w' hfirst
  obtain ⟨calls', events', hjournal', hcalls', hq⟩ := hf a calls _ hp w' b w'' hsecond
  refine ⟨calls ++ calls', events ++ events', ?_, ?_, ?_⟩
  · rw [hjournal', hjournal, List.append_assoc]
  · rw [Event.calls_append, hcalls, hcalls', List.map_append]
  · rw [Event.written_append]
    exact hq

/-- The same where the first part always calls and writes the same. -/
lemma Makes.next {x : Work σ α} {f : α → Work σ β} {calls : List (CallMode × Command)}
    {files : List Path} {q : β → List (CallMode × Command) → List Path → Prop}
    (hx : x.Makes fun _ calls' files' => calls' = calls ∧ files' = files)
    (hf : ∀ a, (f a).Makes fun b calls' files' => q b (calls ++ calls') (files ++ files')) :
    (x >>= f).Makes q := by
  refine hx.bind fun a _ _ ⟨hcalls, hfiles⟩ => ?_
  rw [hcalls, hfiles]
  exact hf a

/-- A value comes without a call or a file. -/
lemma makes_pure {a : α} (h : q a [] []) : (pure a : Work σ α).Makes q := by
  intro w b w' hrun
  cases hrun
  exact ⟨[], [], (List.append_nil _).symm, rfl, h⟩

/-- Nor does a result. -/
lemma makes_ofExcept (x : Except Failure α) :
    Makes (σ := σ) (Act.ofExcept x) fun a calls files =>
      x = .ok a ∧ calls = [] ∧ files = [] := by
  intro w a w' hrun
  rw [Act.run_ofExcept] at hrun
  obtain ⟨hx, rfl⟩ := Prod.mk.inj hrun
  exact ⟨[], [], (List.append_nil _).symm, rfl, hx, rfl, rfl⟩

/-- Nor does a message. -/
lemma makes_said (m : Remark) :
    Makes (σ := σ) (note (.said m)) fun _ calls files => calls = [] ∧ files = [] := by
  intro w a w' hrun
  cases hrun
  exact ⟨[], [.said m], rfl, rfl, rfl, rfl⟩

/-- A call is made once. -/
lemma makes_call (mode : CallMode) (request : Command → Disk → σ → Reply σ α) (c : Command) :
    (call mode request c).Makes fun _ calls files => calls = [(mode, c)] ∧ files = [] := by
  intro w a w' hrun
  obtain ⟨hresult, rfl⟩ := Prod.mk.inj hrun
  refine ⟨[(mode, c)], _, rfl, ?_, rfl, Event.written_map_said _⟩
  rw [Event.calls_called, hresult]
  rfl

/-- A tool that is run is called once, and its short name is handed on. -/
lemma makes_invoke_bind (r : Runner σ) (c : Command) {f : String → Work σ β}
    {q : β → List (CallMode × Command) → List Path → Prop}
    (hf : (f c.tool).Makes fun b calls files => q b ((.run, c) :: calls) files) :
    (invoke r c >>= f).Makes q := by
  rw [invoke, Act.bind_assoc]
  exact (makes_call .run r.run c).next fun _ => hf

/-- A file is written once. -/
lemma makes_write (path : Path) (contents : String) :
    (Workspace.write path contents : Work σ Unit).Makes fun _ calls files =>
      calls = [] ∧ files = [path] := by
  intro w a w' hrun
  rcases Workspace.run_write path contents w with ⟨cause, hfails⟩ | hwritten
  · rw [hfails] at hrun
    exact absurd (congrArg Prod.fst hrun) (by simp)
  · rw [hwritten] at hrun
    cases hrun
    exact ⟨[], [.wrote path], rfl, rfl, rfl, rfl⟩

end Work

/-! ## The parts of a session -/

/-- The files that a session writes for a task of the compiler, in their order. -/
def Workspace.filesFor (ws : Workspace) : CompilerTask → List Path
  | .follow => [ws.projectFile, ws.symbolFile]
  | .mlir => [ws.symbolFile]
  | .interpret => []

/-- Statistics agree with the calls that were made, with the files that were written, and with the
pipeline whose script is among them, if there is one. -/
structure Statistics.Counts (n : Statistics) (calls : List (CallMode × Command))
    (files : List Path) (script : Option Pipeline) : Prop where
  /-- The tools are those that were run, in their order. -/
  tools : n.tools = Plan.toolsRun calls
  /-- All files are counted. -/
  files : n.files = files.length
  /-- The stages are those of the script, without snapshots. -/
  stages : n.stages = (script.map fun p => p.withoutSnapshots.length).getD 0

namespace Session

open Work

variable {σ : Type} (s : Session) (r : Runner σ) (inputs : List Path)

/-- A file of the working directory is written once. -/
lemma makes_writeFile (path : Path) (contents what : String) :
    Makes (σ := σ) (s.writeFile path contents what) fun _ calls files =>
      calls = [] ∧ files = [path] := by
  refine (makes_write path contents).next fun _ => (makes_said _).mono ?_
  rintro _ _ _ ⟨rfl, rfl⟩
  exact ⟨rfl, rfl⟩

/-- Flags are asked for once if the compiler was installed, whatever is put behind them. -/
lemma makes_flags {flag : String} {fixed : List String} {runtime : Work σ (List String)}
    (pick : NativeFlags → List String)
    (hruntime : runtime = if s.installation.isInstalled then s.installation.query r flag
      else pure fixed) :
    Makes (Act.ofExcept (s.settings.backend.nativeFlags s.environment) >>= fun extra =>
        runtime >>= fun words => pure (words ++ pick extra)) fun _ calls files =>
      calls = s.question flag ∧ files = [] := by
  have hwords : runtime.Makes fun _ calls files => calls = s.question flag ∧ files = [] := by
    rw [hruntime, question]
    split
    · exact (makes_call .capture r.capture _).next fun _ => makes_pure ⟨rfl, rfl⟩
    · exact makes_pure ⟨rfl, rfl⟩
  refine (makes_ofExcept _).bind fun extra _ _ ⟨_, hcalls, hfiles⟩ => ?_
  rw [hcalls, hfiles]
  exact hwords.next fun _ => makes_pure ⟨List.append_nil _, rfl⟩

/-- The flags for compiling are asked for once if the compiler was installed. -/
lemma makes_compileFlags : (s.compileFlags r).Makes fun _ calls files =>
    calls = s.question "--print-c-flags" ∧ files = [] :=
  s.makes_flags r NativeFlags.compile rfl

/-- The flags for linking are asked for once if the compiler was installed. -/
lemma makes_linkFlags : (s.linkFlags r).Makes fun _ calls files =>
    calls = s.question "--print-ld-flags" ∧ files = [] :=
  s.makes_flags r NativeFlags.link rfl

/-- No tool is called to choose the native compiler. -/
lemma makes_choose (env : Environment) (cxx : Bool) :
    (Toolchain.choose env r cxx).Makes fun _ calls files => calls = [] ∧ files = [] := by
  unfold Toolchain.choose
  split
  · intro w words w' hrun
    cases hrun
    exact ⟨[], [], (List.append_nil _).symm, rfl, rfl, rfl⟩
  · exact makes_pure ⟨rfl, rfl⟩

/-- The flags for compiling are asked for, and then those for linking. -/
lemma makes_toolchain (ws : Workspace) : (s.toolchain r ws).Makes fun _ calls files =>
    calls = s.question "--print-c-flags" ++ s.question "--print-ld-flags" ∧ files = [] := by
  refine (makes_choose r _ _).next fun _ => ?_
  refine (s.makes_compileFlags r).next fun _ => ?_
  refine (s.makes_linkFlags r).next fun _ => ?_
  exact makes_pure ⟨by simp, rfl⟩

/-- Further sources are compiled one after the other, by induction on them: for each there is one
call, and its tool is counted. -/
lemma makes_compileExtra (t : Toolchain) (ws : Workspace) (sources : List Path) :
    (compileExtra r t ws sources).Makes fun built calls files =>
      calls = compileCalls ws t sources ∧ files = [] ∧
        built = (sources.map ws.objectFile, Plan.toolsRun calls) := by
  induction sources with
  | nil => exact makes_pure ⟨rfl, rfl, rfl⟩
  | cons source sources ih =>
    refine makes_invoke_bind r _ (ih.bind fun _ _ _ ⟨hcalls, hfiles, hbuilt⟩ => ?_)
    subst hcalls hfiles hbuilt
    exact makes_pure ⟨by simp [compileCalls], rfl, by simp⟩

/-- **What a native build calls**: the questions for flags, the compilation of further sources, and
the link. The tools that are run are given. -/
lemma makes_linkProgram (ws : Workspace) : (s.linkProgram r ws).Makes fun tools calls files =>
    (∃ t, calls = s.question "--print-c-flags" ++ s.question "--print-ld-flags" ++
      compileCalls ws t s.settings.extraC ++ [(.run, s.linkCommand ws t)]) ∧ files = [] ∧
      tools = Plan.toolsRun calls := by
  refine (s.makes_toolchain r ws).next fun t => ?_
  refine (makes_compileExtra r t ws _).bind fun _ _ _ ⟨hcalls, hfiles, hbuilt⟩ => ?_
  subst hcalls hfiles hbuilt
  refine makes_invoke_bind r _ (makes_pure ⟨⟨t, ?_⟩, rfl, ?_⟩)
  · simp only [List.append_assoc]
    rfl
  · simp

/-- The linked program is run if that is asked for. -/
lemma makes_runProgram (ws : Workspace) : (s.runProgram r ws).Makes fun tools calls files =>
    calls = s.programCalls ws ∧ files = [] ∧ tools = Plan.toolsRun calls := by
  unfold runProgram programCalls
  split
  · exact makes_invoke_bind r _ (makes_pure ⟨rfl, rfl, rfl⟩)
  · exact makes_pure ⟨rfl, rfl, rfl⟩

/-! ## In a working directory -/

/-- The program that a session reports: the linked one, if one is linked. -/
def linked (ws : Workspace) : Option Path :=
  if s.task? = some .follow ∧ s.linksCode = true then some (ws.executable s.settings.basename)
  else none

/-- The pipeline whose script a session writes into a working directory, if it writes one. -/
def scriptIn (ws : Workspace) : Option Pipeline :=
  if s.task? = some .follow then (s.settings.pipelineInto ws.path.text).toOption else none

/-- What a session does for a task of the compiler, as it is counted: its calls are all those that
were planned, it writes the files for the task, and it gives the program that it links. -/
def Tallies (ws : Workspace) (task : CompilerTask) (value : Option Path × Statistics)
    (calls : List (CallMode × Command)) (files : List Path) : Prop :=
  (∃ t, calls = (.run, s.compilerRun inputs ws task) :: s.laterCalls ws t task) ∧
    files = ws.filesFor task ∧ value.1 = s.linked ws ∧ value.2.Counts calls files (s.scriptIn ws)

variable {s}

/-- **What is counted while code is generated by a script.** -/
theorem makes_build (htask : s.task? = some .follow) (ws : Workspace) :
    (s.build r inputs ws).Makes (s.Tallies inputs ws .follow) := by
  refine (makes_ofExcept _).bind fun p _ _ ⟨hp, hcalls, hfiles⟩ => ?_
  subst hcalls hfiles
  have hscript : s.scriptIn ws = some p := by
    rw [scriptIn, if_pos htask, hp]
    rfl
  refine (s.makes_writeFile _ _ _).next fun _ => ?_
  refine (s.makes_writeFile _ _ _).next fun _ => ?_
  refine makes_invoke_bind r _ ?_
  dsimp only
  split
  · next hlinks =>
    have hlinks : s.linksCode = true := hlinks
    have hlinked : s.linked ws = some (ws.executable s.settings.basename) :=
      if_pos ⟨htask, hlinks⟩
    refine (s.makes_linkProgram r ws).bind fun _ _ _ ⟨⟨t, hcalls⟩, hfiles, htools⟩ => ?_
    subst hcalls hfiles htools
    refine (s.makes_runProgram r ws).bind fun _ _ _ ⟨hcalls, hfiles, htools⟩ => ?_
    subst hcalls hfiles htools
    refine makes_pure ⟨⟨t, ?_⟩, rfl, hlinked.symm, ?_, rfl, by rw [hscript]; rfl⟩
    · simp only [laterCalls, hlinks, if_true, nativeCalls, List.append_assoc, List.nil_append,
        List.append_nil]
      rfl
    · simp
  · next hlinks =>
    have hlinks : ¬ s.linksCode = true := hlinks
    have hlinked : s.linked ws = none := if_neg fun h => hlinks h.2
    refine makes_pure ⟨⟨default, ?_⟩, rfl, hlinked.symm, rfl, rfl, by rw [hscript]; rfl⟩
    rw [laterCalls, if_neg hlinks]
    rfl

/-- **What is counted while MLIR is generated and run.** -/
theorem makes_runMlir (htask : s.task? = some .mlir) (ws : Workspace) :
    (s.runMlir r inputs ws).Makes (s.Tallies inputs ws .mlir) := by
  have hlinked : s.linked ws = none := if_neg fun h => by simp [htask] at h
  have hscript : s.scriptIn ws = none := if_neg (by simp [htask])
  refine (s.makes_writeFile _ _ _).next fun _ => ?_
  refine makes_invoke_bind r _ ?_
  refine (makes_said _).next fun _ => ?_
  refine makes_invoke_bind r _ ?_
  refine (makes_said _).next fun _ => ?_
  exact makes_pure ⟨⟨default, rfl⟩, rfl, hlinked.symm, rfl, rfl, by rw [hscript]; rfl⟩

/-- A native build got its script from a pipeline into the working directory. -/
lemma exists_generate_of_build {ws : Workspace} {value : Option Path × Statistics}
    {w w' : World σ} (h : (s.build r inputs ws).run w = (.ok value, w')) :
    ∃ p tool w₁, s.settings.pipelineInto ws.path.text = .ok p ∧
      (s.generate r inputs ws p).run w = (.ok tool, w₁) := by
  obtain ⟨p, w₁, hpipeline, h₁⟩ := Act.exists_of_bind_eq_ok h
  obtain ⟨hp, rfl⟩ := Prod.mk.inj hpipeline
  obtain ⟨_, w₂, hproject, h₂⟩ := Act.exists_of_bind_eq_ok h₁
  obtain ⟨_, w₃, hsymbols, h₃⟩ := Act.exists_of_bind_eq_ok h₂
  obtain ⟨tool, w₄, hcompiler, -⟩ := Act.exists_of_bind_eq_ok h₃
  refine ⟨p, tool, w₄, hp, ?_⟩
  rw [generate, Act.bind_ok hproject, Act.bind_ok hsymbols, hcompiler]

/-! ## Whole sessions -/

variable (s)

/-- The working directory that a session reports: the one it worked in, if that is kept. -/
def keptDir (ws : Workspace) : Option Path :=
  if s.settings.keepFiles = true ∧ (s.task? = some .follow ∨ s.task? = some .mlir) then
    some ws.path
  else none

/-- What a session reports agrees with its calls, with the files that it wrote, and with its working
directory. -/
structure Accounts (ws : Workspace) (report : Report) (calls : List (CallMode × Command))
    (files : List Path) : Prop where
  /-- The files are those for the task of the compiler. -/
  written : files = (s.task?.map ws.filesFor).getD []
  /-- The statistics agree with the calls, the files and the script. -/
  counts : report.statistics.Counts calls files (s.scriptIn ws)
  /-- The working directory is reported if it was used and is kept. -/
  workspace : report.workspace = s.keptDir ws
  /-- The program is reported if it was linked. -/
  executable : report.executable = s.linked ws

variable {s}

/-- A session that needs no working directory and counts what it called accounts for that. -/
lemma accounts_of_no_directory {report : Report} {calls : List (CallMode × Command)}
    (hfollow : s.task? ≠ some .follow) (hmlir : s.task? ≠ some .mlir)
    (hstatistics : report.statistics = { tools := Plan.toolsRun calls })
    (hworkspace : report.workspace = none) (hexecutable : report.executable = none)
    (ws : Workspace) : s.Accounts ws report calls [] := by
  have hwritten : (s.task?.map ws.filesFor).getD [] = [] := by
    rcases htask : s.task? with _ | _ | _ | _
    · rfl
    · exact absurd htask hfollow
    · exact absurd htask hmlir
    · rfl
  have hscript : s.scriptIn ws = none := if_neg hfollow
  refine ⟨hwritten.symm, ?_, ?_, ?_⟩
  · rw [hstatistics, hscript]
    exact ⟨rfl, rfl, rfl⟩
  · rw [hworkspace, keptDir, if_neg fun h => h.2.elim hfollow hmlir]
  · rw [hexecutable, linked, if_neg fun h => hfollow h.1]

/-- What is shown comes of its calls, and nothing is counted. -/
lemma makes_showing {x : Work σ String} {calls : List (CallMode × Command)}
    (hx : x.Makes fun _ calls' files => calls' = calls ∧ files = []) :
    (showing x).Makes fun report calls' files => calls' = calls ∧ files = [] ∧
      report.statistics = {} ∧ report.workspace = none ∧ report.executable = none :=
  hx.next fun _ => makes_pure ⟨List.append_nil _, rfl, rfl, rfl, rfl⟩

/-- **What is counted without a working directory.** -/
theorem makes_dispatch (hsteps : s.steps? r inputs = none) (ws : Workspace) (t : Toolchain) :
    (s.dispatch r inputs).Makes fun report calls files =>
      calls = s.allCalls inputs ws t ∧ s.Accounts ws report calls files := by
  have hfollow : s.task? ≠ some .follow := fun h => by simp [steps?_of_follow h] at hsteps
  have hmlir : s.task? ≠ some .mlir := fun h => by simp [steps?_of_mlir h] at hsteps
  -- scripts and flags are shown without a tool that is run
  have hshown {x : Work σ String} (hnone : s.task? = none)
      (hx : x.Makes fun _ calls files => calls = s.shownQuestion ∧ files = []) :
      (showing x).Makes fun report calls files =>
        calls = s.allCalls inputs ws t ∧ s.Accounts ws report calls files := by
    have hruns : Plan.toolsRun s.shownQuestion = [] := by
      unfold shownQuestion
      split <;> simp
    refine (makes_showing hx).mono ?_
    rintro report _ _ ⟨rfl, rfl, hstatistics, hworkspace, hexecutable⟩
    refine ⟨by rw [allCalls, hnone], ?_⟩
    exact accounts_of_no_directory hfollow hmlir (by rw [hstatistics, hruns]) hworkspace
      hexecutable ws
  have hflags {flags : Work σ (List String)}
      (hx : flags.Makes fun _ calls files => calls = s.shownQuestion ∧ files = []) :
      (flags >>= fun words => pure (" ".intercalate words)).Makes fun _ calls files =>
        calls = s.shownQuestion ∧ files = [] :=
    hx.next fun _ => makes_pure ⟨List.append_nil _, rfl⟩
  unfold dispatch
  split
  · next haction =>
    refine hshown (by simp [task?, haction]) ((makes_ofExcept _).mono ?_)
    rintro _ _ _ ⟨-, rfl, rfl⟩
    simp [shownQuestion, haction]
  · next haction =>
    refine hshown (by simp [task?, haction]) (hflags ?_)
    rw [shownQuestion, haction]
    exact s.makes_compileFlags r
  · next haction =>
    refine hshown (by simp [task?, haction]) (hflags ?_)
    rw [shownQuestion, haction]
    exact s.makes_linkFlags r
  · next haction hbackend =>
    have hinterpret : s.task? = some .interpret := by simp [task?, haction, hbackend]
    refine makes_invoke_bind r _ (makes_pure ⟨?_, ?_⟩)
    · rw [allCalls, hinterpret]
      rfl
    · exact accounts_of_no_directory hfollow hmlir rfl rfl rfl ws
  -- what is left needs a working directory
  · next haction hbackend => simp [task?, haction, hbackend] at hmlir
  · cases haction : s.settings.action <;> cases hbackend : s.settings.backend <;>
      simp_all [task?]

/-- **What a session counts without a working directory is what it did.** -/
lemma accounts_of_no_steps {w w' : World σ} {report : Report} (hsteps : s.steps? r inputs = none)
    (h : (s.execute r inputs).run w = (.ok report, w')) (ws : Workspace) (t : Toolchain) :
    ∃ events, w'.journal = w.journal ++ events ∧
      Event.calls events = (s.allCalls inputs ws t).map Plan.succeeded ∧
      s.Accounts ws report (s.allCalls inputs ws t) (Event.written events) := by
  obtain ⟨shown, w₁, hdone, rfl, rfl⟩ := exists_dispatch_of_execute h
  obtain ⟨_, events, hjournal, hcalls, rfl, haccounts⟩ :=
    makes_dispatch r inputs hsteps ws t w shown w₁ hdone
  refine ⟨events ++ s.epilogue (.ok shown), ?_, ?_, ?_⟩
  · rw [hjournal, List.append_assoc]
  · rw [Event.calls_append, hcalls, calls_epilogue, List.append_nil]
  · rw [Event.written_append, written_epilogue, List.append_nil]
    exact ⟨haccounts.written, haccounts.counts, haccounts.workspace, haccounts.executable⟩

/-- What a session does in a working directory counts what it does for the task of the compiler. -/
lemma exists_task_of_steps {steps : Workspace → Work σ (Option Path × Statistics)}
    (hsteps : s.steps? r inputs = some steps) :
    ∃ task, s.task? = some task ∧ (task = .follow ∨ task = .mlir) ∧
      ∀ ws, (steps ws).Makes (s.Tallies inputs ws task) := by
  rcases task?_of_steps? hsteps with ⟨htask, rfl⟩ | ⟨htask, rfl⟩
  · exact ⟨.follow, htask, Or.inl rfl, makes_build r inputs htask⟩
  · exact ⟨.mlir, htask, Or.inr rfl, makes_runMlir r inputs htask⟩

/-- **What a session counts in a working directory is what it did.** -/
lemma accounts_of_steps {w w' : World σ} {report : Report}
    {steps : Workspace → Work σ (Option Path × Statistics)}
    (hsteps : s.steps? r inputs = some steps)
    (h : (s.execute r inputs).run w = (.ok report, w')) :
    ∃ ws t w₁ value w₂ events,
      (Workspace.acquire s.settings.workingDir s.settings.keepFiles s.settings.verbose).run w =
        (.ok ws, w₁) ∧ (steps ws).run w₁ = (.ok value, w₂) ∧
        w'.disk = (ws.removal w₂.disk).2 ∧ w'.journal = w.journal ++ events ∧
        Event.calls events = (s.allCalls inputs ws t).map Plan.succeeded ∧
        s.Accounts ws report (s.allCalls inputs ws t) (Event.written events) := by
  obtain ⟨task, htask, hdirectory, hmakes⟩ := exists_task_of_steps r inputs hsteps
  obtain ⟨ws, w₁, value, w₂, hacquire, hended, -, hreport, rfl⟩ := exists_steps_of_execute hsteps h
  obtain ⟨-, hkeep, -, -, hw₁⟩ := Workspace.acquire_eq_ok hacquire
  obtain ⟨calls, events, hjournal, hcalls, ⟨t, rfl⟩, hfiles, hlinked, hcounts⟩ :=
    hmakes ws w₁ _ w₂ hended
  have hall : s.allCalls inputs ws t =
      (.run, s.compilerRun inputs ws task) :: s.laterCalls ws t task := by
    rw [allCalls, htask]
  have hkept : (if ws.keep then some ws.path else none) = s.keptDir ws := by
    have hused : s.task? = some .follow ∨ s.task? = some .mlir :=
      hdirectory.imp (fun h => by rw [htask, h]) fun h => by rw [htask, h]
    rw [keptDir, hkeep]
    cases s.settings.keepFiles <;> simp [hused]
  refine ⟨ws, t, w₁, value, w₂, .said (Workspace.greeting s.settings.verbose ws) ::
    (events ++ ws.farewell ++ s.epilogue (.ok report)), hacquire, hended, rfl, ?_, ?_, ?_⟩
  · dsimp only
    rw [hjournal, hw₁]
    simp only [List.append_assoc, List.singleton_append]
    rfl
  · show Event.calls (events ++ ws.farewell ++ s.epilogue (.ok report)) = _
    rw [Event.calls_append, Event.calls_append, hcalls, Workspace.calls_farewell, calls_epilogue,
      List.append_nil, List.append_nil, hall]
  · have hwritten : Event.written (.said (Workspace.greeting s.settings.verbose ws) ::
        (events ++ ws.farewell ++ s.epilogue (.ok report))) = Event.written events := by
      show Event.written (events ++ ws.farewell ++ s.epilogue (.ok report)) = _
      rw [Event.written_append, Event.written_append, Workspace.written_farewell, written_epilogue,
        List.append_nil, List.append_nil]
    rw [hwritten, hall, hreport]
    exact ⟨by rw [hfiles, htask]; rfl, hcounts, hkept, hlinked⟩

/-- A session that runs generated code, with a further source and an installed compiler. -/
def runningCode : Session where
  settings := {
    action := .run
    workingDir := some "work"
    keepFiles := true
    extraC := ["a/x.c"] }
  installation := ⟨"/home/opam/bin/asli"⟩

end Session

end AslBuild
