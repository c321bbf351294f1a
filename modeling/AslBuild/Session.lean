import AslBuild.Native.Installation
import AslBuild.Native.Toolchain
import AslBuild.Pipeline.Assembly
import AslBuild.Script
import AslBuild.Statistics
import AslBuild.Symbols
import AslBuild.Workspace
set_option autoImplicit false

/-!
# Sessions

A session does what its settings ask for, step by step, and ends at the first failure. Some sessions
only show something. The others run the compiler in a working directory, and then, as far as they
are asked to, compile what it generated, link it and run it. The working directory is released
whatever comes of the steps; a failure of the steps counts for more than one of the release. Two
backends go their own way: the interpreter needs no working directory, and MLIR is run by a tool of
its own.

## Main definitions

* `AslBuild.Session` — settings, surroundings, and the command line that is recorded in scripts.
* `AslBuild.Report` — what comes of a session.
* `AslBuild.Session.execute` — a session over some input files.
-/

namespace AslBuild

/-- What a session works with. -/
structure Session where
  /-- The options. -/
  settings : Settings
  /-- The compiler. -/
  installation : Installation
  /-- The variables. -/
  environment : Environment := .empty
  /-- The command line that scripts record. -/
  commandLine : Option String := none

/-- What comes of a session. -/
structure Report where
  /-- What is shown. -/
  output : Option String := none
  /-- The working directory, if it is kept. -/
  workspace : Option Path := none
  /-- The program that was linked. -/
  executable : Option Path := none
  /-- What was counted. -/
  statistics : Statistics := {}

namespace Session

section

variable {σ : Type}

/-! ## Scripts and flags -/

/-- The script that generates code where the settings say. -/
def script (s : Session) : Except Failure String := do
  let p ← s.settings.pipeline
  .ok (Script.render p s.commandLine)

/-- The flags for compiling generated code: those of the runtime, then those of the backend. -/
def compileFlags (s : Session) (r : Runner σ) : Work σ (List String) := do
  let extra ← Act.ofExcept (s.settings.backend.nativeFlags s.environment)
  let runtime ← s.installation.compileFlags r
  pure (runtime ++ extra.compile)

/-- The flags for linking generated code: those of the runtime, then those of the backend. -/
def linkFlags (s : Session) (r : Runner σ) : Work σ (List String) := do
  let extra ← Act.ofExcept (s.settings.backend.nativeFlags s.environment)
  let runtime ← s.installation.linkFlags r
  pure (runtime ++ extra.link)

/-! ## Commands for the compiler -/

/-- The compiler, with the checks that the settings ask for. -/
def compiler (s : Session) : Command :=
  ⟨s.installation.program.text,
    ["--batchmode", "--nobanner", "--check-call-markers", "--check-exception-markers",
      if s.settings.checkConstraints then "--check-constraints" else "--no-check-constraints",
      if s.settings.checkRuntime then "--runtime-checks" else "--no-runtime-checks"] ++
    if s.settings.boundedInts then ["--exec=:xform_bounded"] else []⟩

/-- The option that names a configuration file. -/
def configurationOption (p : Path) : String := "--configuration=" ++ p.text

/-- Generate code by the script in a working directory. -/
def generateCommand (s : Session) (w : Workspace) (inputs : List Path) : Command :=
  s.compiler.plus (["--project=" ++ w.projectFile.text, configurationOption w.symbolFile] ++
    s.settings.configurations.map configurationOption ++ inputs.map Path.text)

/-- Interpret the program. -/
def interpretCommand (s : Session) (inputs : List Path) : Command :=
  s.compiler.plus (["--exec=let result = main();", "--exec=:quit"] ++ inputs.map Path.text)

/-- Generate MLIR without a script. -/
def mlirCommand (s : Session) (w : Workspace) (inputs : List Path) : Command :=
  ⟨s.installation.program.text,
    ["--batchmode", configurationOption w.symbolFile, "--exec=:filter_reachable_from exports",
      "--exec=:generate_mlir --output-file=" ++ w.mlirFile.text, "--exec=:quit"] ++
    inputs.map Path.text⟩

/-- Run MLIR. -/
def mlirProgram (w : Workspace) : Command := ⟨"asl-opt", ["--target=exec", w.mlirFile.text]⟩

/-! ## Steps -/

/-- A message on the progress of the session. -/
def progress (s : Session) (message : String) : Work σ Unit :=
  Work.progress s.settings.verbose message

/-- Write a file of the working directory and say so. -/
def writeFile (s : Session) (path : Path) (contents what : String) : Work σ Unit := do
  Workspace.write path contents
  s.progress ("# Generated " ++ what ++ " " ++ path.text)

/-- Write the symbol file. -/
def writeSymbols (s : Session) (w : Workspace) : Work σ Unit :=
  s.writeFile w.symbolFile (Symbols.ofSettings s.settings).encode "configuration file"

/-- Compile further sources, one after the other, and give the object files and the tools. -/
def compileExtra (r : Runner σ) (t : Toolchain) (w : Workspace) :
    List Path → Work σ (List Path × List String)
  | [] => pure ([], [])
  | source :: sources => do
    let object := w.objectFile source
    let tool ← Work.invoke r (t.compile source object)
    let (objects, tools) ← compileExtra r t w sources
    pure (object :: objects, tool :: tools)

/-- The native compiler with the flags of the session. -/
def toolchain (s : Session) (r : Runner σ) (w : Workspace) : Work σ Toolchain := do
  let compiler ← Toolchain.choose s.environment r s.settings.cxx
  let compileFlags ← s.compileFlags r
  let linkFlags ← s.linkFlags r
  pure (Toolchain.ofFlags compiler compileFlags linkFlags w.path s.settings.cxx)

/-- Compile and link generated code, and give the tools. -/
def linkProgram (s : Session) (r : Runner σ) (w : Workspace) : Work σ (List String) := do
  let t ← s.toolchain r w
  let (objects, tools) ← compileExtra r t w s.settings.extraC
  let sources := w.sourceFiles s.settings.basename s.settings.cxx
  let linker ← Work.invoke r (t.link sources objects (w.executable s.settings.basename))
  pure (tools ++ [linker])

/-- Run the linked program if that is asked for, and give the tools. -/
def runProgram (s : Session) (r : Runner σ) (w : Workspace) : Work σ (List String) :=
  if s.settings.action = .run then do
    let tool ← Work.invoke r ⟨(w.executable s.settings.basename).text, []⟩
    pure [tool]
  else pure []

/-- Generate code by a script, and go on to a native build unless code is all that is asked for or
the definitions are dumped in its place. The linked program and the statistics are given. -/
def build (s : Session) (r : Runner σ) (inputs : List Path) (w : Workspace) :
    Work σ (Option Path × Statistics) := do
  let p ← Act.ofExcept (s.settings.pipelineInto w.path.text)
  s.writeFile w.projectFile (Script.render p s.commandLine) "project"
  s.writeSymbols w
  let compiler ← Work.invoke r (s.generateCommand w inputs)
  let stages := p.withoutSnapshots.length
  if s.settings.action.links && !s.settings.showFinal then
    let builders ← s.linkProgram r w
    let program ← s.runProgram r w
    pure (some (w.executable s.settings.basename),
      { stages := stages, files := 2, tools := compiler :: builders ++ program })
  else pure (none, { stages := stages, files := 2, tools := [compiler] })

/-- Generate MLIR and run it. The statistics are given. -/
def runMlir (s : Session) (r : Runner σ) (inputs : List Path) (w : Workspace) :
    Work σ (Option Path × Statistics) := do
  s.writeSymbols w
  let compiler ← Work.invoke r (s.mlirCommand w inputs)
  s.progress ("# Generated " ++ w.mlirFile.text)
  let program ← Work.invoke r (mlirProgram w)
  s.progress ("# Ran " ++ w.mlirFile.text)
  pure (none, { files := 1, tools := [compiler, program] })

/-- Interpret the program. -/
def interpret (s : Session) (r : Runner σ) (inputs : List Path) : Work σ Report := do
  let tool ← Work.invoke r (s.interpretCommand inputs)
  pure { statistics := { tools := [tool] } }

/-! ## The session -/

/-- Do steps in a working directory and release it whatever comes of them. A failure of the steps
counts for more than one of the release. -/
def inWorkspace (s : Session) (steps : Workspace → Work σ (Option Path × Statistics)) :
    Work σ Report := do
  let w ← Workspace.acquire s.settings.workingDir s.settings.keepFiles s.settings.verbose
  let outcome ← (steps w).attempt
  let released ← w.release.attempt
  let (executable, statistics) ← Act.ofExcept outcome
  Act.ofExcept released
  pure { workspace := if w.keep then some w.path else none, executable, statistics }

/-- A session that only shows something. -/
def showing (text : Work σ String) : Work σ Report := do
  let text ← text
  pure { output := some text }

/-- The steps that the settings ask for. -/
def dispatch (s : Session) (r : Runner σ) (inputs : List Path) : Work σ Report :=
  match s.settings.action, s.settings.backend with
  | .showScript, _ => showing (Act.ofExcept s.script)
  | .showCompileFlags, _ => showing do pure (" ".intercalate (← s.compileFlags r))
  | .showLinkFlags, _ => showing do pure (" ".intercalate (← s.linkFlags r))
  | .run, .interpreter => s.interpret r inputs
  | .run, .mlir => s.inWorkspace (s.runMlir r inputs)
  | _, _ => s.inWorkspace (s.build r inputs)

/-- A session over some input files: check the settings, do what they ask for, and end with the
statistics if progress is shown and a tool was run. No blank stands at the end of what is shown. -/
def execute (s : Session) (r : Runner σ) (inputs : List Path) : Work σ Report := do
  Act.ofExcept (s.settings.checkSession inputs)
  let report ← s.dispatch r inputs
  if s.settings.verbose && !report.statistics.tools.isEmpty then
    Work.log .info report.statistics.text
  pure { report with output := report.output.map Text.trimEnd }

end

end Session

end AslBuild
