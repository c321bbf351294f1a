import AslBuild.Pipeline.Stage
import AslBuild.Settings
set_option autoImplicit false

/-!
# Assembling a pipeline

Code that is not needed goes first, because the later transformations cannot cope with all of it.
Then the definitions are desugared, constants propagated, and functions specialised twice, with a
filter in between, because the first round brings calls to light that were not specialised. After a
second round of simplification and constants, integers get their width last, since that changes the
types of functions. The imports are filtered out, the result is checked, and code is generated. A
minimal pipeline has only the filters and the generator.

To see what each stage does, a dump of the definitions can follow every stage but the last. The
files are numbered, so that their names sort in the order of the stages.

## Main definitions

* `AslBuild.Stage.snapshotFile` — the file that the snapshot after a stage goes to.
* `AslBuild.Stage.withSnapshots` — stages with a snapshot after each of them.
* `AslBuild.Settings.finalStage` — the stage that generates code, or dumps what it would be made
  from.
* `AslBuild.Settings.fullStages`, `AslBuild.Settings.minimalStages` — the stages in front of `quit`.
* `AslBuild.Settings.pipeline` — the pipeline of a session.
-/

namespace AslBuild

/-! ## Snapshots -/

namespace Stage

/-- A number with at least two digits. -/
def twoDigits (n : Nat) : String := if n < 10 then "0" ++ toString n else toString n

/-- The file that the snapshot after a stage goes to. -/
def snapshotFile (stem : String) (number : Nat) (s : Stage) : String :=
  stem ++ "." ++ twoDigits number ++ "." ++ s.directive.name ++ ".asl"

/-- The snapshot after a stage. -/
def snapshot (stem : String) (number : Nat) (s : Stage) : Stage :=
  ⟨.dump, ["--format=raw", "--output", s.snapshotFile stem number]⟩

/-- Stages with a snapshot after each of them but those that end the script, where the first
snapshot has the given number. -/
def withSnapshotsFrom (stem : String) : Nat → List Stage → List Stage
  | _, [] => []
  | n, s :: rest =>
    if s.directive = .quit then s :: withSnapshotsFrom stem n rest
    else s :: s.snapshot stem n :: withSnapshotsFrom stem (n + 1) rest

/-- Stages with a snapshot after each of them but those that end the script. -/
def withSnapshots (stem : String) (stages : List Stage) : List Stage :=
  withSnapshotsFrom stem 0 stages

end Stage

/-! ## Stages -/

/-- A stage that is there if a condition holds. -/
def Stage.given (condition : Bool) (s : Stage) : List Stage := if condition then [s] else []

/-- An argument that is there if a condition holds. -/
def Stage.option (condition : Bool) (argument : String) : List String :=
  if condition then [argument] else []

/-- A file in a directory, or the file alone if the directory has no name. Slashes at the end of the
directory do not count. -/
def fileBelow (dir file : String) : String :=
  if dir.isEmpty then file
  else String.ofList ((dir.toList.reverse.dropWhile (· == '/')).reverse ++ '/' :: file.toList)

/-- Keep what the exports need, and what is built in. -/
def keepReachable : Stage := ⟨.filterReachableFrom, ["--keep-builtins", "exports"]⟩

/-- Propagate constants. -/
def propagate : Stage := ⟨.xformConstprop, ["--nounroll"]⟩

/-- Remove the functions that are imported, and then what only they needed. -/
def importFilters : List Stage :=
  [⟨.filterUnlistedFunctions, ["imports"]⟩, ⟨.filterReachableFrom, ["exports"]⟩]

namespace Settings

/-- Specialise functions. -/
def specialise (s : Settings) : Stage :=
  ⟨.xformMonomorphize, [if s.autoCaseSplit then "--auto-case-split" else "--no-auto-case-split"]⟩

/-- The arguments for generating C or C++ into a directory. -/
def generatorArguments (s : Settings) (flags : List String) (dir : String) (files : Nat) :
    List String :=
  Stage.option (s.newFfi || s.action.readsInputs) "--new-ffi" ++ flags ++
    Stage.option (decide (0 < s.constRef)) ("--const-ref=" ++ toString s.constRef) ++
    Stage.option s.cxx "--generate-cxx" ++ Stage.option s.splitState "--split-state" ++
    ["--output-dir=" ++ dir, "--basename=" ++ s.basename, "--num-c-files=" ++ toString files,
      if s.lineInfo then "--line-info" else "--no-line-info"]

/-- The stage that generates code into a directory, or the dump that was asked for in its place. -/
def finalStage (s : Settings) (dir : String) (files : Nat) : Except Failure Stage :=
  if s.showFinal then .ok ⟨.dump, ["--format=raw"]⟩
  else do
    let generator ← s.backend.generator
    match generator.output with
    | .c => .ok ⟨.generateC, s.generatorArguments generator.flags dir files⟩
    | .mlir =>
      .ok ⟨.generateMlir, generator.flags ++ ["--output-file=" ++ fileBelow dir "asl.mlir"]⟩

/-- The stages of a full pipeline, in front of its final stage. -/
def transformations (s : Settings) : List Stage :=
  [keepReachable, ⟨.xformNamedType, []⟩, ⟨.xformDesugar, []⟩, ⟨.xformBittuples, []⟩,
      ⟨.xformLower, []⟩] ++
    Stage.given s.intSlices ⟨.xformIntBitslices, []⟩ ++
    [⟨.xformGetset, []⟩] ++
    Stage.given s.trackUnknown ⟨.xformValid, ["track-valid"]⟩ ++
    [propagate, s.specialise, keepReachable, s.specialise, ⟨.xformTuples, []⟩, ⟨.xformGetset, []⟩,
      ⟨.xformBittuples, []⟩] ++
    Stage.given s.hoistLets ⟨.xformHoistLets, []⟩ ++
    [⟨.xformBitslices, Stage.option s.backend.hasBitSlices "--notransform"⟩, ⟨.xformCase, []⟩] ++
    Stage.given s.wrapVariables ⟨.xformWrap, []⟩ ++
    [propagate] ++
    Stage.given s.boundedInts ⟨.xformBounded, []⟩ ++
    importFilters ++
    Stage.given s.removesThreadLocals ⟨.filterListedVariables, ["thread_local_state"]⟩ ++
    [⟨.checkMonomorphization, ["--fatal", "--verbose"]⟩]

/-- The stages of a full pipeline. -/
def fullStages (s : Settings) (dir : String) : Except Failure (List Stage) := do
  let final ← s.finalStage dir s.functionFiles
  .ok (s.transformations ++ [final])

/-- The stages of a minimal pipeline, which generates a single file of functions. -/
def minimalStages (s : Settings) (dir : String) : Except Failure (List Stage) := do
  let final ← s.finalStage dir 1
  .ok (keepReachable :: importFilters ++ Stage.given s.boundedInts ⟨.xformBounded, []⟩ ++ [final])

/-- The pipeline that generates code into a directory. -/
def pipelineInto (s : Settings) (dir : String) : Except Failure Pipeline := do
  s.checkPipeline
  objectIf (Text.hasBlank dir) (.blankInDirectory dir)
  let stages ← if s.minimal then s.minimalStages dir else s.fullStages dir
  let stages := stages ++ [⟨.quit, []⟩]
  match s.snapshots with
  | none => .ok ⟨stages⟩
  | some stem => .ok ⟨Stage.withSnapshots stem stages⟩

/-- The pipeline that generates code where the settings say. -/
def pipeline (s : Settings) : Except Failure Pipeline := s.pipelineInto s.outputDir

end Settings

end AslBuild
