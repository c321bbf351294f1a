import AslBuild.CommandLine.Arguments
import AslBuild.Native.Installation
import AslBuild.Settings
set_option autoImplicit false

/-!
# From arguments to settings

## Main definitions

* `AslBuild.CommandLine.Arguments.action` — what the session does.
* `AslBuild.CommandLine.Arguments.settings` — the settings of the session.
* `AslBuild.CommandLine.Arguments.installation` — the compiler.
-/

namespace AslBuild.CommandLine.Arguments

open FileSystem

/-- What the session does. A question for flags counts for more than anything else, and a dump of
the final definitions is never linked. -/
def action (a : Arguments) : Action :=
  if a.has .printCompileFlags then .showCompileFlags
  else if a.has .printLinkFlags then .showLinkFlags
  else if a.has .showFinal && (a.has .run || a.has .build || !a.inputs.isEmpty) then .generate
  else if a.has .run then .run
  else if a.has .build then .build
  else .showScript

/-- The number that is given for an option. -/
def numberOf (a : Arguments) (o : Valued) (default : Nat) : Nat :=
  ((a.value? o).bind number?).getD default

/-- The paths that are given for an option. -/
def pathsOf (a : Arguments) (o : Valued) : List Path := (a.values o).map Path.mk

/-- The backend that is given. -/
def backend (a : Arguments) : Backend :=
  ((a.value? .backend).bind fun name => (Backend.ofName name).toOption).getD .c23

/-- The settings of the session. -/
def settings (a : Arguments) : Settings where
  action := a.action
  backend := a.backend
  basename := (a.value? .basename).getD "asl"
  outputDir := (a.value? .outputDir).getD ""
  snapshots := a.value? .intermediates
  functionFiles := a.numberOf .functionFiles 1
  autoCaseSplit := a.has (.autoCaseSplit true)
  constRef := a.numberOf .constRef 0
  generateCxx := a.has .generateCxx
  splitState := a.has .splitState
  lineInfo := a.has (.lineInfo true)
  newFfi := a.has .newFfi
  trackUnknown := a.has .instrumentUnknown
  wrapVariables := a.has .wrapVariables
  intSlices := a.has .transformIntSlices
  hoistLets := !a.has .noHoistLets
  splitThreadLocal := a.has .splitThreadLocal
  minimal := (a.values .level).contains minimalLevel
  boundedInts := (a.values .level).contains boundedLevel
  showFinal := a.has .showFinal
  checkConstraints := a.has (.constraintChecks true)
  checkRuntime := a.has (.runtimeChecks true)
  exports := a.values .exported
  imports := a.values .imported
  threadLocals := a.values .threadLocal
  configurations := a.pathsOf .configuration
  extraC := a.pathsOf .extraC
  workingDir := (a.value? .workingDir).map Path.mk
  keepFiles := a.has .saveTemps
  verbose := a.has .verbose

/-- The compiler: the one that is given, else the one beside this program. -/
def installation (a : Arguments) (d : Disk) (programDir : Path) : Installation :=
  match a.value? .asli with
  | some p => ⟨⟨p⟩⟩
  | none => Installation.inDir d programDir

end AslBuild.CommandLine.Arguments
