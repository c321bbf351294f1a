import AslBuild.Proofs.Pipeline.Building
import AslBuild.Session
set_option autoImplicit false

/-!
# What sessions are built from

A session puts a few kinds of steps into sequences: it says something, writes a file, calls a tool,
and looks for the native compiler. So a relation between steps that holds of these, and that
sequences keep, holds of everything a session does in a working directory. The relation may compare
the steps of two sessions, each with a runner of its own, or say something about the steps of one.

## Main definitions

* `AslBuild.Session.Asking` — a relation between steps that holds of messages and calls.
* `AslBuild.Session.Calling` — one that holds of what sessions are built from, but for files that
  are written.
* `AslBuild.Session.Simulation` — one that also holds of every file that is written.
* `AslBuild.Session.FullSimulation` — one that also holds of failures and of working directories.
* `AslBuild.Session.steps?` — what a session does in a working directory.

## Main results

* `AslBuild.Session.Calling.build_of_writes`, `AslBuild.Session.Calling.runMlir_of_writes` — the
  relation holds of the steps that are done in a working directory, if it holds of the files that
  they write.
* `AslBuild.Session.FullSimulation.execute` — the relation holds of whole sessions.
* `AslBuild.Session.run_inWorkspace` — what comes of steps in a working directory, from what comes
  of their parts.
* `AslBuild.Session.run_execute` — a session whose settings are accepted does what is dispatched.
-/

namespace AslBuild

open FileSystem

namespace Session

/-- A relation between steps, of which the one uses the runner `r` and the other the runner `r'`. It
holds of messages and of the tools that are called, and sequences keep it. -/
structure Asking {σ τ : Type} (P : (α : Type) → Work σ α → Work τ α → Prop) (r : Runner σ)
    (r' : Runner τ) : Prop where
  /-- It holds of values. -/
  pure {α : Type} (a : α) : P α (Pure.pure a) (Pure.pure a)
  /-- A sequence keeps it. -/
  bind {α β : Type} {x : Work σ α} {x' : Work τ α} {f : α → Work σ β} {f' : α → Work τ β} :
    P α x x' → (∀ a, P β (f a) (f' a)) → P β (x >>= f) (x' >>= f')
  /-- It holds of messages that are logged. -/
  log (level : Level) (message : String) :
    P Unit (Work.log level message) (Work.log level message)
  /-- It holds where a backend has no native flags. -/
  lacking {env : Environment} {b : Backend} {e : Failure} :
    b.nativeFlags env = .error e → P NativeFlags (Act.fail e) (Act.fail e)
  /-- It holds of tools that are run. -/
  run (c : Command) : P Unit (Work.call .run r.run c) (Work.call .run r'.run c)
  /-- It holds of tools that are asked. -/
  capture (c : Command) :
    P String (Work.call .capture r.capture c) (Work.call .capture r'.capture c)

/-- A relation that also holds of the choice of a native compiler, so that it holds of what sessions
are built from, but for files that are written. -/
structure Calling {σ τ : Type} (P : (α : Type) → Work σ α → Work τ α → Prop) (r : Runner σ)
    (r' : Runner τ) : Prop extends Asking P r r' where
  /-- It holds of the choice of a native compiler. -/
  choose (env : Environment) (cxx : Bool) :
    P (List String) (Toolchain.choose env r cxx) (Toolchain.choose env r' cxx)

/-- A relation that also holds of files that are written. -/
structure Simulation {σ τ : Type} (P : (α : Type) → Work σ α → Work τ α → Prop) (r : Runner σ)
    (r' : Runner τ) : Prop extends Calling P r r' where
  /-- It holds of files that are written. -/
  write (path : Path) (contents : String) :
    P Unit (Workspace.write path contents) (Workspace.write path contents)

/-- A simulation that also holds of every failure but those of tools, and of steps in a working
directory if it holds of the steps. -/
structure FullSimulation {σ τ : Type} (P : (α : Type) → Work σ α → Work τ α → Prop)
    (r : Runner σ) (r' : Runner τ) : Prop extends Simulation P r r' where
  /-- It holds of failures that are not those of a tool. -/
  fail {α : Type} {e : Failure} : (∀ t, e ≠ .tool t) → P α (Act.fail e) (Act.fail e)
  /-- A working directory keeps it. -/
  inWorkspace (s : Session) {steps : Workspace → Work σ (Option Path × Statistics)}
    {steps' : Workspace → Work τ (Option Path × Statistics)} :
    (∀ ws, P (Option Path × Statistics) (steps ws) (steps' ws)) →
      P Report (s.inWorkspace steps) (s.inWorkspace steps')

variable {σ τ α : Type} {P : (α : Type) → Work σ α → Work τ α → Prop} {r : Runner σ}
  {r' : Runner τ}

/-! ## The steps of a session -/

/-- What a session does once the script and the symbol file are written. -/
def follow (s : Session) (r : Runner σ) (inputs : List Path) (ws : Workspace) (p : Pipeline) :
    Work σ (Option Path × Statistics) := do
  let compiler ← Work.invoke r (s.generateCommand ws inputs)
  let stages := p.withoutSnapshots.length
  if s.settings.action.links && !s.settings.showFinal then
    let builders ← s.linkProgram r ws
    let program ← s.runProgram r ws
    Pure.pure (some (ws.executable s.settings.basename),
      { stages := stages, files := 2, tools := compiler :: builders ++ program })
  else Pure.pure (none, { stages := stages, files := 2, tools := [compiler] })

/-- A script is followed once it and the symbol file are written. -/
lemma build_eq_follow (s : Session) (r : Runner σ) (inputs : List Path) (ws : Workspace) :
    s.build r inputs ws =
      Act.ofExcept (s.settings.pipelineInto ws.path.text) >>= fun p =>
        s.writeFile ws.projectFile (Script.render p s.commandLine) "project" >>= fun _ =>
          s.writeSymbols ws >>= fun _ => s.follow r inputs ws p := rfl

/-- What a session that runs MLIR does once the symbol file is written. -/
def runGenerated (s : Session) (r : Runner σ) (inputs : List Path) (ws : Workspace) :
    Work σ (Option Path × Statistics) := do
  let compiler ← Work.invoke r (s.mlirCommand ws inputs)
  s.progress ("# Generated " ++ ws.mlirFile.text)
  let program ← Work.invoke r (mlirProgram ws)
  s.progress ("# Ran " ++ ws.mlirFile.text)
  Pure.pure (none, { files := 1, tools := [compiler, program] })

/-- MLIR is generated and run once the symbol file is written. -/
lemma runMlir_eq_runGenerated (s : Session) (r : Runner σ) (inputs : List Path) (ws : Workspace) :
    s.runMlir r inputs ws = s.writeSymbols ws >>= fun _ => s.runGenerated r inputs ws := rfl

namespace Asking

variable (h : Asking P r r') (s : Session)

include h

/-- The relation holds of a value or a failure, if it holds of the failure. -/
lemma ofExcept {x : Except Failure α} (hx : ∀ e, x = .error e → P α (Act.fail e) (Act.fail e)) :
    P α (Act.ofExcept x) (Act.ofExcept x) := by
  cases x with
  | ok a => exact h.pure a
  | error e => exact hx e rfl

/-- The relation holds of a message on the progress of a session. -/
lemma progress (message : String) : P Unit (s.progress message) (s.progress message) :=
  h.log _ _

/-- The relation holds of a tool that is run for what it does. -/
lemma invoke (c : Command) : P String (Work.invoke r c) (Work.invoke r' c) :=
  h.bind (h.run c) fun _ => h.pure _

/-- The relation holds of asking the compiler for flags. -/
lemma query (i : Installation) (flag : String) :
    P (List String) (i.query r flag) (i.query r' flag) :=
  h.bind (h.capture _) fun _ => h.pure _

/-- The relation holds of the flags for compiling. -/
lemma compileFlags : P (List String) (s.compileFlags r) (s.compileFlags r') := by
  refine h.bind (h.ofExcept fun _ he => h.lacking he) fun _ => h.bind ?_ fun _ => h.pure _
  unfold Installation.compileFlags
  split
  · exact h.query _ _
  · exact h.pure _

/-- The relation holds of the flags for linking. -/
lemma linkFlags : P (List String) (s.linkFlags r) (s.linkFlags r') := by
  refine h.bind (h.ofExcept fun _ he => h.lacking he) fun _ => h.bind ?_ fun _ => h.pure _
  unfold Installation.linkFlags
  split
  · exact h.query _ _
  · exact h.pure _

/-- The relation holds of a file of the working directory, if it holds of writing it. -/
lemma writeFile {path : Path} {contents : String} (what : String)
    (hwrite : P Unit (Workspace.write path contents) (Workspace.write path contents)) :
    P Unit (s.writeFile path contents what) (s.writeFile path contents what) :=
  h.bind hwrite fun _ => h.progress s _

/-- The relation holds of further sources that are compiled, one after the other. -/
lemma compileExtra (t : Toolchain) (ws : Workspace) (sources : List Path) :
    P (List Path × List String) (Session.compileExtra r t ws sources)
      (Session.compileExtra r' t ws sources) := by
  induction sources with
  | nil => exact h.pure _
  | cons source sources ih =>
    exact h.bind (h.invoke _) fun _ => h.bind ih fun _ => h.pure _

/-- The relation holds of a native build, if it holds of the choice of the compiler. -/
lemma linkProgram (ws : Workspace)
    (hchoose : P (List String) (Toolchain.choose s.environment r s.settings.cxx)
      (Toolchain.choose s.environment r' s.settings.cxx)) :
    P (List String) (s.linkProgram r ws) (s.linkProgram r' ws) := by
  have htoolchain : P Toolchain (s.toolchain r ws) (s.toolchain r' ws) :=
    h.bind hchoose fun _ =>
      h.bind (h.compileFlags s) fun _ => h.bind (h.linkFlags s) fun _ => h.pure _
  exact h.bind htoolchain fun _ =>
    h.bind (h.compileExtra _ _ _) fun _ => h.bind (h.invoke _) fun _ => h.pure _

/-- The relation holds of a program that is run if that is asked for. -/
lemma runProgram (ws : Workspace) : P (List String) (s.runProgram r ws) (s.runProgram r' ws) := by
  unfold Session.runProgram
  split
  · exact h.bind (h.invoke _) fun _ => h.pure _
  · exact h.pure _

/-- **The relation holds of following a script**, if it holds of the choice of a native compiler
where generated code is linked. -/
theorem follow (inputs : List Path) (ws : Workspace) (p : Pipeline)
    (hchoose : (s.settings.action.links && !s.settings.showFinal) = true →
      P (List String) (Toolchain.choose s.environment r s.settings.cxx)
        (Toolchain.choose s.environment r' s.settings.cxx)) :
    P (Option Path × Statistics) (s.follow r inputs ws p) (s.follow r' inputs ws p) := by
  refine h.bind (h.invoke _) fun compiler => ?_
  dsimp only
  split
  · next hlinks =>
    exact h.bind (h.linkProgram s ws (hchoose hlinks)) fun _ =>
      h.bind (h.runProgram s ws) fun _ => h.pure _
  · exact h.pure _

/-- The relation holds of generating MLIR and running it, once the symbol file is written. -/
lemma runGenerated (inputs : List Path) (ws : Workspace) :
    P (Option Path × Statistics) (s.runGenerated r inputs ws) (s.runGenerated r' inputs ws) :=
  h.bind (h.invoke _) fun _ => h.bind (h.progress s _) fun _ => h.bind (h.invoke _) fun _ =>
    h.bind (h.progress s _) fun _ => h.pure _

/-- The relation holds of showing the flags for compiling. -/
lemma showCompileFlags :
    P Report (showing do Pure.pure (" ".intercalate (← s.compileFlags r)))
      (showing do Pure.pure (" ".intercalate (← s.compileFlags r'))) :=
  h.bind (h.bind (h.compileFlags s) fun _ => h.pure _) fun _ => h.pure _

/-- The relation holds of showing the flags for linking. -/
lemma showLinkFlags :
    P Report (showing do Pure.pure (" ".intercalate (← s.linkFlags r)))
      (showing do Pure.pure (" ".intercalate (← s.linkFlags r'))) :=
  h.bind (h.bind (h.linkFlags s) fun _ => h.pure _) fun _ => h.pure _

/-- The relation holds of interpreting a program. -/
lemma interpret (inputs : List Path) : P Report (s.interpret r inputs) (s.interpret r' inputs) :=
  h.bind (h.invoke _) fun _ => h.pure _

end Asking

namespace Calling

variable (h : Calling P r r') (s : Session)

include h

section

variable {ws : Workspace}
  (hsymbols : ∀ contents, P Unit (Workspace.write ws.symbolFile contents)
    (Workspace.write ws.symbolFile contents))

include hsymbols

/-- **The relation holds of generating code and of what comes after that**, if it holds of the files
that are written, and where there is no pipeline. -/
theorem build_of_writes (inputs : List Path)
    (hp : ∀ e, s.settings.pipelineInto ws.path.text = .error e →
      P Pipeline (Act.fail e) (Act.fail e))
    (hproject : ∀ contents, P Unit (Workspace.write ws.projectFile contents)
      (Workspace.write ws.projectFile contents)) :
    P (Option Path × Statistics) (s.build r inputs ws) (s.build r' inputs ws) :=
  h.bind (h.ofExcept hp) fun _ => h.bind (h.writeFile s _ (hproject _)) fun _ =>
    h.bind (h.writeFile s _ (hsymbols _)) fun _ => h.follow s _ _ _ fun _ => h.choose _ _

/-- **The relation holds of generating MLIR and running it**, if it holds of the file that is
written. -/
theorem runMlir_of_writes (inputs : List Path) :
    P (Option Path × Statistics) (s.runMlir r inputs ws) (s.runMlir r' inputs ws) :=
  h.bind (h.writeFile s _ (hsymbols _)) fun _ => h.runGenerated s _ _

end

end Calling

namespace Simulation

variable (h : Simulation P r r') (s : Session)

include h

/-- The relation holds of generating code and of what comes after that, if it holds where there is
no pipeline. -/
lemma build (inputs : List Path) (ws : Workspace)
    (hp : ∀ e, s.settings.pipelineInto ws.path.text = .error e →
      P Pipeline (Act.fail e) (Act.fail e)) :
    P (Option Path × Statistics) (s.build r inputs ws) (s.build r' inputs ws) :=
  h.build_of_writes s (h.write _) inputs hp (h.write _)

/-- The relation holds of generating MLIR and running it. -/
lemma runMlir (inputs : List Path) (ws : Workspace) :
    P (Option Path × Statistics) (s.runMlir r inputs ws) (s.runMlir r' inputs ws) :=
  h.runMlir_of_writes s (h.write _) inputs

end Simulation

/-! ## Whole sessions -/

/-- What a session does in a working directory, if it needs one. -/
def steps? (s : Session) (r : Runner σ) (inputs : List Path) :
    Option (Workspace → Work σ (Option Path × Statistics)) :=
  match s.settings.action, s.settings.backend with
  | .run, .interpreter => none
  | .run, .mlir => some (s.runMlir r inputs)
  | .run, _ => some (s.build r inputs)
  | .generate, _ => some (s.build r inputs)
  | .build, _ => some (s.build r inputs)
  | _, _ => none

/-- A session that needs a working directory does its steps there. -/
lemma dispatch_of_steps? {s : Session} {inputs : List Path}
    {steps : Workspace → Work σ (Option Path × Statistics)} (h : s.steps? r inputs = some steps) :
    s.dispatch r inputs = s.inWorkspace steps := by
  unfold steps? at h
  unfold dispatch
  cases ha : s.settings.action <;> cases hb : s.settings.backend <;>
    simp only [ha, hb, Option.some.injEq, reduceCtorEq] at h ⊢ <;> rw [h]

/-- What a session does in a working directory is one of two things. -/
lemma eq_of_steps? {s : Session} {inputs : List Path}
    {steps : Workspace → Work σ (Option Path × Statistics)} (h : s.steps? r inputs = some steps) :
    steps = s.build r inputs ∨ steps = s.runMlir r inputs := by
  unfold steps? at h
  split at h <;> simp_all

/-- The relation holds of a session that needs no working directory, if it holds where there is no
script. -/
lemma Asking.dispatch_of_no_steps (h : Asking P r r') {s : Session} {inputs : List Path}
    (hsteps : s.steps? r inputs = none)
    (hscript : ∀ e, s.script = .error e → P String (Act.fail e) (Act.fail e)) :
    P Report (s.dispatch r inputs) (s.dispatch r' inputs) := by
  unfold steps? at hsteps
  unfold Session.dispatch
  split
  · exact h.bind (h.ofExcept hscript) fun _ => h.pure _
  · exact h.showCompileFlags s
  · exact h.showLinkFlags s
  · exact h.interpret s inputs
  -- what is left needs a working directory
  · simp_all
  · cases haction : s.settings.action <;> cases hbackend : s.settings.backend <;> simp_all

namespace FullSimulation

variable (h : FullSimulation P r r') (s : Session)

include h

/-- The relation holds of what a session is dispatched to. -/
theorem dispatch (inputs : List Path) : P Report (s.dispatch r inputs) (s.dispatch r' inputs) := by
  have hbuild : P Report (s.inWorkspace (s.build r inputs)) (s.inWorkspace (s.build r' inputs)) :=
    h.inWorkspace s fun ws =>
      h.build s inputs ws fun _ he => h.fail (Settings.ne_tool_of_pipelineInto he)
  unfold Session.dispatch
  split
  · refine h.bind (h.ofExcept fun e he => h.fail ?_) fun _ => h.pure _
    rcases bind_eq_error_iff.1 he with he | ⟨p, -, he⟩
    · exact Settings.ne_tool_of_pipelineInto he
    · exact absurd he (by simp)
  · exact h.showCompileFlags s
  · exact h.showLinkFlags s
  · exact h.interpret s inputs
  · exact h.inWorkspace s fun ws => h.runMlir s inputs ws
  · exact hbuild

/-- **The relation holds of whole sessions.** -/
theorem execute (inputs : List Path) : P Report (s.execute r inputs) (s.execute r' inputs) := by
  refine h.bind (h.ofExcept fun e he => h.fail ?_) fun _ => h.bind (h.dispatch s inputs) fun _ => ?_
  · obtain ⟨o, rfl⟩ := Settings.exists_objection_of_checkSession he
    simp
  · dsimp only
    split
    · exact h.bind (h.log _ _) fun _ => h.pure _
    · exact h.pure _

end FullSimulation

/-! ## What comes of a session -/

/-- What comes of a session in a working directory, from what comes of its steps and of the release
of the directory. -/
def closing (ws : Workspace) :
    Except Failure (Option Path × Statistics) → Except Failure Unit → Except Failure Report
  | .error e, _ => .error e
  | .ok _, .error e => .error e
  | .ok (executable, statistics), .ok () =>
    .ok { workspace := if ws.keep then some ws.path else none, executable, statistics }

/-- **What comes of steps in a working directory**: they are done once it is acquired, and then it
is released, whatever came of them. -/
theorem run_inWorkspace {s : Session} {w w₁ : World σ} {ws : Workspace}
    (h : (Workspace.acquire s.settings.workingDir s.settings.keepFiles s.settings.verbose).run w =
      (.ok ws, w₁)) (steps : Workspace → Work σ (Option Path × Statistics)) :
    let ended := (steps ws).run w₁
    let gone := ws.release.run ended.2
    (s.inWorkspace steps).run w = (closing ws ended.1 gone.1, gone.2) := by
  intro ended gone
  have hended : ((steps ws).attempt).run w₁ = (.ok ended.1, ended.2) := rfl
  have hgone : (ws.release.attempt).run ended.2 = (.ok gone.1, gone.2) := rfl
  rw [inWorkspace, Act.bind_ok h, Act.bind_ok hended, Act.bind_ok hgone]
  rcases ended.1 with e | ⟨executable, statistics⟩
  · rfl
  · rcases gone.1 with e | ⟨⟩ <;> rfl

/-- What a session says at its end, if it succeeds. -/
def epilogue (s : Session) : Except Failure Report → List Event
  | .error _ => []
  | .ok report =>
    if s.settings.verbose && !report.statistics.tools.isEmpty then
      [.said (.logged .info report.statistics.text)]
    else []

/-- What a session shows has no blank at its end. -/
def trimmed (report : Report) : Report := { report with output := report.output.map Text.trimEnd }

/-- **A session whose settings are accepted does what is dispatched**, and adds its statistics to
the journal. -/
theorem run_execute {s : Session} {inputs : List Path}
    (h : s.settings.checkSession inputs = .ok ()) (w : World σ) :
    let done := (s.dispatch r inputs).run w
    (s.execute r inputs).run w =
      (done.1.map trimmed, { done.2 with journal := done.2.journal ++ s.epilogue done.1 }) := by
  intro done
  have hcheck : (Act.ofExcept (s.settings.checkSession inputs) : Work σ Unit).run w = (.ok (), w) :=
    by rw [Act.run_ofExcept, h]
  rw [execute, Act.bind_ok hcheck]
  rcases hdone : (s.dispatch r inputs).run w with ⟨e | report, w'⟩
  · rw [Act.bind_error hdone]
    simp [done, hdone, epilogue, Except.map]
  · rw [Act.bind_ok hdone]
    simp only [done, hdone, epilogue]
    split
    · rfl
    · simp only [List.append_nil]
      rfl

/-- A session whose settings are refused does nothing. -/
theorem run_execute_of_refused {s : Session} {inputs : List Path} {e : Failure}
    (h : s.settings.checkSession inputs = .error e) (w : World σ) :
    (s.execute r inputs).run w = (.error e, w) := by
  rw [execute, Act.bind_error (by rw [Act.run_ofExcept, h])]

end Session

end AslBuild
