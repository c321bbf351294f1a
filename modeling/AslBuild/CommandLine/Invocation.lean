import AslBuild.CommandLine.Log
import AslBuild.CommandLine.Settings
import AslBuild.Host.Runner
import AslBuild.Session
import AslBuild.Tool.Rehearsal
set_option autoImplicit false

/-!
# An invocation of the program

## Main definitions

* `AslBuild.CommandLine.Surroundings` — what the program finds when it starts.
* `AslBuild.CommandLine.Outcome` — what it leaves behind.
* `AslBuild.CommandLine.invoke` — what it does.
-/

namespace AslBuild.CommandLine

open FileSystem Host

/-- What the program finds when it starts. -/
structure Surroundings where
  /-- The files. -/
  disk : Disk
  /-- The variables. -/
  environment : Environment
  /-- The directory that the program is in. -/
  programDir : Path

/-- What the program leaves behind. -/
structure Outcome where
  /-- Its exit status. -/
  status : Nat
  /-- What it printed. -/
  out : List UInt8 := []
  /-- What it printed as messages. -/
  err : List UInt8 := []
  /-- The files. -/
  disk : Disk

/-- The name of the program. -/
def programName : String := "asl2c"

/-- The version of the program. -/
def versionText : String := programName ++ " 0.1.0\n"

/-- What the program is for. -/
def helpText : String :=
  "Generate and build C code from ASL specifications\n\n" ++
    "Usage: " ++ programName ++ " [OPTIONS] [ASL_FILE]...\n"

/-- What is said of a command line that cannot be read. -/
def usageText : String :=
  "error: the arguments cannot be read\n\n" ++
    "Usage: " ++ programName ++ " [OPTIONS] [ASL_FILE]...\n\n" ++
    "For more information, try '--help'.\n"

/-- The exit status for a command line that cannot be read. -/
def usageStatus : Nat := 2

/-- The command line that scripts record. -/
def commandLine (words : List String) : String := " ".intercalate (programName :: words)

/-! ## Printing -/

/-- The bytes of a remark that go to one stream. -/
def shown (t : Threshold) (stream : Stream) : Remark → List UInt8
  | .logged level message =>
    if stream = .err ∧ t.admits level then bytesOf (logLine level message) else []
  | .printed s bytes => if s = stream then bytes else []

/-- The bytes of a journal that go to one stream. -/
def shownAll (t : Threshold) (stream : Stream) (journal : List Event) : List UInt8 :=
  (Event.remarks journal).flatMap (shown t stream)

/-- A text as a line. -/
def lineBytes (s : String) : List UInt8 := bytesOf (s ++ "\n")

/-- What the program leaves behind after a session. `notes` are lines that are printed if the
session succeeds, in front of what it shows. -/
def outcomeOf {σ : Type} (t : Threshold) (result : Except Failure Report) (w : World σ)
    (notes : List String) : Outcome :=
  let out := shownAll t .out w.journal
  let err := shownAll t .err w.journal
  match result with
  | .error failure =>
    { status := failure.exitCode, out, err := err ++ lineBytes failure.message, disk := w.disk }
  | .ok report =>
    let kept : List Remark := report.workspace.toList.map fun dir =>
      .logged .debug ("kept working directory " ++ dir.text)
    { status := 0
      out := out ++ (notes ++ report.output.toList).flatMap lineBytes
      err := err ++ kept.flatMap (shown t .err)
      disk := w.disk }

/-! ## The program -/

/-- The session that some arguments ask for. -/
def sessionOf (s : Surroundings) (words : List String) (a : Arguments) : Session where
  settings := a.settings
  installation := a.installation s.disk s.programDir
  environment := s.environment.capture
  commandLine := some (commandLine words)

/-- Rehearse a session, and list its commands. -/
def rehearse (s : Surroundings) (t : Threshold) (session : Session) (inputs : List Path) :
    Outcome :=
  let w : World (List String) := { disk := s.disk, tools := [] }
  let (result, w) := (session.execute (Rehearsal.runner {}) inputs).run w
  outcomeOf t result w w.tools

/-- The variable that holds the home of the user. -/
def homeVariable : String := "HOME"

/-- Hold a session with processes. -/
def perform (launch : Launch) (s : Surroundings) (t : Threshold) (session : Session)
    (inputs : List Path) : Outcome :=
  let w : World Unit := { disk := s.disk, tools := () }
  let place : SearchPlace :=
    { dirs := session.environment.get? Environment.searchPath
      home := (s.environment.get? homeVariable).getD "" }
  let r := Host.runner launch s.environment place session.settings.verbose
  let (result, w) := (session.execute r inputs).run w
  outcomeOf t result w []

/-- What the program does with the words of a command line. -/
def invoke (launch : Launch) (s : Surroundings) (words : List String) : Outcome :=
  match Arguments.ofWords words with
  | .error .usage => { status := usageStatus, err := bytesOf usageText, disk := s.disk }
  | .error .help => { status := 0, out := bytesOf helpText, disk := s.disk }
  | .error .version => { status := 0, out := bytesOf versionText, disk := s.disk }
  | .ok a =>
    let t := Threshold.choose (s.environment.bindings.lookup Threshold.variableName)
      (a.has .verbose)
    let session := sessionOf s words a
    if a.has .dryRun then rehearse s t session a.inputs
    else perform launch s t session a.inputs

end AslBuild.CommandLine
