import AslBuild.Host.Process
set_option autoImplicit false

/-!
# Starting programs by name

A program that is given by a bare name is started from the first directory of the search path from
which it can be started.

## Main definitions

* `AslBuild.Host.startByName` — start the program of a name.
-/

namespace AslBuild.Host

open FileSystem

/-- The variable that lists the directories in which programs are looked for. -/
def searchVariable : String := "PATH"

/-- The directories in which programs are looked for if no variable lists them. -/
def defaultSearchPath : String := "/bin:/usr/bin"

/-- Whether the search for a program goes on after a failure. -/
def goesOn : IoError → Bool
  | .os e => e == .noEntry || e == .notDirectory || e == .accessDenied
  | _ => false

/-- Start a program. If there is a shell for what is no program by itself, that may run it. -/
def startAt (launch : Launch) (shell : Option String) (start : Start) :
    Run (Except IoError Status) := do
  match ← launch start, shell with
  | .error (.os errno), some shell =>
    if errno = .execFormat then
      launch { start with path := shell, name := shell, arguments := start.path :: start.arguments }
    else pure (.error (.os errno))
  | result, _ => pure result

/-- Start the first program of some paths that can be started. A file that may not be executed is
passed over, but it is what the search fails with if there is no other. -/
def startFirst (launch : Launch) (shell : Option String) (start : Start) :
    Bool → List String → Run (Except IoError Status)
  | denied, [] => pure (.error (.os (if denied then .accessDenied else .noEntry)))
  | denied, path :: paths => do
    match ← startAt launch shell { start with path } with
    | .ok ending => pure (.ok ending)
    | .error e =>
      if goesOn e then startFirst launch shell start (denied || e == .os .accessDenied) paths
      else pure (.error e)

/-- The path to a name in a directory of a search path; no directory is the working directory. -/
def nameIn (name dir : String) : String := if dir.isEmpty then name else dir ++ "/" ++ name

/-- Start a program, given by its path or by a bare name. If there is a shell for what is no program
by itself, that may run it. -/
def startByName (launch : Launch) (shell : Option String) (start : Start) :
    Run (Except IoError Status) := do
  let name := start.path
  if name.isEmpty then pure (.error (.os .noEntry))
  else if name.toList.contains '/' then startAt launch shell start
  else if maxName < name.length then pure (.error (.os .nameTooLong))
  else
    let dirs := (start.process.value? searchVariable).getD defaultSearchPath
    startFirst launch shell start false ((dirs.splitOn ":").map (nameIn name))

end AslBuild.Host
