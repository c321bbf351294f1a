import AslBuild.FileSystem.Error
set_option autoImplicit false

/-!
# Failures

Every way in which a session can end without a result, each with its cause, the text that is shown
for it and the exit status that the program ends with.

## Main definitions

* `AslBuild.Objection` — what is wrong with a choice of options.
* `AslBuild.ScriptFlaw` — what is wrong with a line of a script.
* `AslBuild.ToolFailure` — why a tool did not do its work.
* `AslBuild.Failure` — all of these and the failures of the files.
* `AslBuild.Failure.message`, `AslBuild.Failure.exitCode` — what the user gets.

## Main results

* `AslBuild.Failure.exitCode_pos`, `AslBuild.Failure.exitCode_lt` — the exit status of a failure
  lies between 1 and 255.
-/

namespace AslBuild

/-! ## Options -/

/-- What is wrong with a choice of options. -/
inductive Objection
  /-- Large arguments are to be passed by reference, which only C++ can do. -/
  | constRefNeedsCxx
  /-- The functions are to be spread over no file. -/
  | noFunctionFile
  /-- The generated files have no name. -/
  | noBasename
  /-- A value that becomes a word of the script holds a blank. -/
  | blankIn (option value : String)
  /-- The directory for generated code holds a blank. -/
  | blankInDirectory (dir : String)
  /-- Input files are given, but nothing reads them. -/
  | inputsNotRead
  /-- The number of files is chosen, but a build fixes it. -/
  | fileCountFixed
  /-- Symbols or sources are given, but nothing reads them. -/
  | symbolsNotRead
  /-- Configuration files are given, but nothing reads them. -/
  | configurationsNotRead
  /-- The interpreter can only run. -/
  | interpreterOnlyRuns
  /-- MLIR output is not linked. -/
  | mlirNotLinked
  /-- An objection in the words of the one who raises it. -/
  | stated (reason : String)
deriving DecidableEq

/-- The text of an objection. -/
def Objection.message : Objection → String
  | .constRefNeedsCxx => "must specify --generate-cxx with --const-ref"
  | .noFunctionFile => "--num-c-files must be at least 1"
  | .noBasename => "--basename must not be empty"
  | .blankIn option value => option ++ " '" ++ value ++ "' must not contain whitespace"
  | .blankInDirectory dir => "output directory '" ++ dir ++ "' must not contain whitespace"
  | .inputsNotRead => "only provide input files if building or running"
  | .fileCountFixed => "don't specify --num-c-files if building or running"
  | .symbolsNotRead =>
    "don't specify --import, --export, --thread-local or --extra-c if not building or running"
  | .configurationsNotRead => "don't specify --configuration unless building or running"
  | .interpreterOnlyRuns => "must specify --run with the interpreter backend"
  | .mlirNotLinked => "the mlir backend cannot be linked, use --run"
  | .stated reason => reason

/-! ## Scripts -/

/-- What is wrong with a line of a script. -/
inductive ScriptFlaw
  /-- The line is neither blank nor a comment nor a directive. -/
  | notDirective (line : String)
  /-- There is no word after the mark of a directive. -/
  | missingName
  /-- No directive has this name. -/
  | unknownName (name : String)
  /-- A flaw in the words of the one who finds it. -/
  | stated (reason : String)
deriving DecidableEq

/-- The text of a flaw. -/
def ScriptFlaw.message : ScriptFlaw → String
  | .notDirective line => "expected a directive, found '" ++ line ++ "'"
  | .missingName => "missing directive name"
  | .unknownName name => "unknown directive '" ++ name ++ "'"
  | .stated reason => reason

/-! ## Tools -/

/-- Why a tool did not do its work. -/
inductive ToolFailure
  /-- It ended with a status other than zero. -/
  | failed (tool command : String) (code : Int)
  /-- It could not be started. -/
  | unavailable (command : String) (cause : IoError)
deriving DecidableEq

/-- The text of a failure of a tool. -/
def ToolFailure.message : ToolFailure → String
  | .failed _ command code =>
    "Command '" ++ command ++ "' returned non-zero exit status " ++ toString code ++ "."
  | .unavailable command cause => "Unable to run '" ++ command ++ "': " ++ cause.message

/-! ## All failures -/

/-- Why a session ended without a result. -/
inductive Failure
  /-- The options do not go together. -/
  | invalid (objection : Objection)
  /-- A backend is missing from a table: that of all names, or that of one of its uses. -/
  | unknownBackend (name table : String)
  /-- A backend needs a variable that is not set. -/
  | missingVariable (name backend : String)
  /-- A tool did not do its work. -/
  | tool (failure : ToolFailure)
  /-- An operation on the files of a session failed. -/
  | workspace (path : Path) (cause : IoError)
  /-- A line of a script, counted from 1, cannot be read. -/
  | malformed (line : Nat) (flaw : ScriptFlaw)
deriving DecidableEq

namespace Failure

/-- The text of a failure. -/
def message : Failure → String
  | .invalid objection => "Error: " ++ objection.message
  | .unknownBackend name table => "Backend '" ++ name ++ "' has no " ++ table ++ " profile"
  | .missingVariable name backend =>
    name ++ " environment variable must be set for the " ++ backend ++ " backend"
  | .tool failure => failure.message
  | .workspace path cause => "Workspace error at " ++ path.text ++ ": " ++ cause.message
  | .malformed line flaw => "Malformed script line " ++ toString line ++ ": " ++ flaw.message

/-- The exit status that a failure gives the program: that of the tool that failed where it is one
of 1 to 255, and 1 for everything else. -/
def exitCode : Failure → Nat
  | .tool (.failed _ _ code) => if 1 ≤ code ∧ code ≤ 255 then code.toNat else 1
  | _ => 1

/-- A failure never looks like a success. -/
theorem exitCode_pos (f : Failure) : 0 < f.exitCode := by
  unfold exitCode
  split
  · split <;> omega
  · omega

/-- The exit status of a failure fits in a byte. -/
theorem exitCode_lt (f : Failure) : f.exitCode < 256 := by
  unfold exitCode
  split
  · split <;> omega
  · omega

end Failure

end AslBuild
