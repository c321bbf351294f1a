import AslBuild.Backend
import AslBuild.Text.Blank
set_option autoImplicit false

/-!
# Settings of a session

The options of a session, fully resolved, and the rules that they have to keep. There are two sets
of rules: those that a pipeline depends on, and those that a session adds to them.

## Main definitions

* `AslBuild.Action` — what a session does.
* `AslBuild.Settings` — the options.
* `AslBuild.Settings.checkPipeline` — the first objection to building a pipeline, if there is one.
* `AslBuild.Settings.checkSession` — the first objection to a session over some input files.

## Main results

* `AslBuild.Settings.checkPipeline_of_checkSession` — a session's rules include those of a pipeline.
-/

namespace AslBuild

/-! ## Actions -/

/-- What a session does. -/
inductive Action
  /-- Show the script. -/
  | showScript
  /-- Show the flags for compiling generated code. -/
  | showCompileFlags
  /-- Show the flags for linking generated code. -/
  | showLinkFlags
  /-- Generate code. -/
  | generate
  /-- Generate code, compile and link it. -/
  | build
  /-- Generate code, compile, link and run it. -/
  | run
deriving DecidableEq, Inhabited

/-- Whether the action reads input files. -/
def Action.readsInputs : Action → Bool
  | .generate | .build | .run => true
  | _ => false

/-- Whether the action makes an executable. -/
def Action.links : Action → Bool
  | .build | .run => true
  | _ => false

/-! ## Settings -/

/-- The options of a session. -/
structure Settings where
  /-- What the session does. -/
  action : Action := .showScript
  /-- The runtime that code is generated for. -/
  backend : Backend := .c23
  /-- What the names of generated files start with. -/
  basename : String := "asl"
  /-- Where generated code goes if there is no working directory. -/
  outputDir : String := ""
  /-- What the names of snapshots start with, if snapshots are wanted. -/
  snapshots : Option String := none
  /-- The number of files that the functions are spread over. -/
  functionFiles : Nat := 1
  /-- Whether functions are split by cases to make widths constant. -/
  autoCaseSplit : Bool := false
  /-- The number of bits above which arguments go by reference; 0 for never. -/
  constRef : Nat := 0
  /-- Whether C++ is asked for. -/
  generateCxx : Bool := false
  /-- Whether the state is split into several structures. -/
  splitState : Bool := false
  /-- Whether generated code names the lines it comes from. -/
  lineInfo : Bool := false
  /-- Whether the new foreign function interface is asked for. -/
  newFfi : Bool := false
  /-- Whether assignments of unknown values are tracked. -/
  trackUnknown : Bool := false
  /-- Whether global variables get accessor functions. -/
  wrapVariables : Bool := false
  /-- Whether slices of integers become slices of bit vectors. -/
  intSlices : Bool := false
  /-- Whether let-expressions are lifted. -/
  hoistLets : Bool := true
  /-- Whether thread-local variables are removed. -/
  splitThreadLocal : Bool := false
  /-- Whether the transformations are skipped. -/
  minimal : Bool := false
  /-- Whether constrained integers get their exact width. -/
  boundedInts : Bool := false
  /-- Whether the final definitions are dumped in place of code. -/
  showFinal : Bool := false
  /-- Whether type constraints are checked. -/
  checkConstraints : Bool := false
  /-- Whether bounds and the like are checked at run time. -/
  checkRuntime : Bool := false
  /-- The functions that are kept. -/
  exports : List String := []
  /-- The functions that are provided from outside. -/
  imports : List String := []
  /-- The thread-local variables that are provided from outside. -/
  threadLocals : List String := []
  /-- Further configuration files for the compiler. -/
  configurations : List Path := []
  /-- Further C sources to compile and link. -/
  extraC : List Path := []
  /-- The working directory; a temporary one if none is given. -/
  workingDir : Option Path := none
  /-- Whether the working directory is kept. -/
  keepFiles : Bool := false
  /-- Whether progress is shown. -/
  verbose : Bool := false
deriving DecidableEq

namespace Settings

/-- Whether the generated code is C++. -/
def cxx (s : Settings) : Bool := s.generateCxx || s.backend.requiresCxx

/-- Whether the script removes thread-local variables. -/
def removesThreadLocals (s : Settings) : Bool := s.splitThreadLocal || !s.threadLocals.isEmpty

/-! ## Rules -/

/-- Object if a condition holds. -/
def objectIf (condition : Bool) (objection : Objection) : Except Failure Unit :=
  if condition then .error (.invalid objection) else .ok ()

/-- Object if a value, which becomes a word of the script, holds a blank. -/
def objectToBlanks (option value : String) : Except Failure Unit :=
  objectIf (Text.hasBlank value) (.blankIn option value)

/-- The rules for building a pipeline. The words of a script are separated by blanks, so no value
that becomes part of a word may hold one. -/
def checkPipeline (s : Settings) : Except Failure Unit := do
  objectIf (decide (0 < s.constRef) && !s.cxx) .constRefNeedsCxx
  objectIf (s.functionFiles == 0) .noFunctionFile
  objectIf s.basename.isEmpty .noBasename
  objectToBlanks "--basename" s.basename
  objectToBlanks "--output-dir" s.outputDir
  match s.snapshots with
  | some stem => objectToBlanks "--intermediates" stem
  | none => .ok ()

/-- Whether symbols or sources are named. -/
def namesSymbols (s : Settings) : Bool :=
  !(s.imports.isEmpty && s.exports.isEmpty && s.extraC.isEmpty && s.threadLocals.isEmpty)

/-- The rules for a session over input files: an option that only a build reads is refused
elsewhere, and every backend is used for what it can do. -/
def checkSession (s : Settings) (inputs : List Path) : Except Failure Unit := do
  objectIf (!inputs.isEmpty && !s.action.readsInputs) .inputsNotRead
  objectIf (s.functionFiles != 1 && s.action.readsInputs) .fileCountFixed
  objectIf (s.namesSymbols && !s.action.readsInputs) .symbolsNotRead
  objectIf (!s.configurations.isEmpty && !s.action.readsInputs) .configurationsNotRead
  objectIf (s.backend == .interpreter && s.action != .run) .interpreterOnlyRuns
  objectIf (s.backend == .mlir && s.action == .build) .mlirNotLinked
  s.checkPipeline

theorem objectIf_eq_ok {condition : Bool} {objection : Objection} :
    objectIf condition objection = .ok () ↔ condition = false := by
  cases condition <;> simp [objectIf]

/-- A sequence of two checks passes exactly if both pass. -/
theorem bind_eq_ok {x : Except Failure Unit} {y : Unit → Except Failure Unit} :
    (x >>= y) = .ok () ↔ x = .ok () ∧ y () = .ok () := by
  cases x <;> simp [bind, Except.bind]

/-- A session's rules include those of a pipeline. -/
theorem checkPipeline_of_checkSession {s : Settings} {inputs : List Path}
    (h : s.checkSession inputs = .ok ()) : s.checkPipeline = .ok () := by
  simp only [checkSession, bind_eq_ok] at h
  exact h.2.2.2.2.2.2

end Settings

end AslBuild
