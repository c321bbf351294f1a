import AslBuild.Host.Spawn
import AslBuild.Tools.Option
set_option autoImplicit false

/-!
# Running programs

## Main definitions

* `AslBuild.Tools.Tool.ofLaunching` — a tool that may start other programs.
* `AslBuild.Tools.becoming`, `AslBuild.Tools.running` — go on as another program, or run one.
-/

namespace AslBuild.Tools

open FileSystem Host Text

/-- A tool that may start other programs. -/
def Tool.ofLaunching (task : Launch → List String → Task Unit) : Tool := fun launch start =>
  Tool.ofTask (task launch) launch start

/-- The shell for what is no program by itself. -/
def plainShell : String := "/bin/sh"

/-- Go on as another program: its end is that of the tool. -/
def becoming {α : Type} (launch : Launch) (name : String) (arguments : List String) :
    Task (Except IoError α) := do
  match ← onMachine fun process =>
      startByName launch (some plainShell) { path := name, name, arguments, process } with
  | .ok ending => Act.fail ending
  | .error e => pure (.error e)

/-- Run another program to its end. -/
def running (launch : Launch) (change : Process → Process) (name : String)
    (arguments : List String) : Task (Except IoError Status) :=
  onMachine fun p => do
    let child ← newProcess (change p)
    whileAlive child.number
      (startByName launch (some plainShell) { path := name, name, arguments, process := child })

/-- The status for a program that cannot be started. -/
def unstartable (e : IoError) : Nat :=
  if e = .os .noEntry then 127 else 126

/-- Go on as the program that words name, the name of which is shown in some way if that fails. -/
def becomeWords (launch : Launch) (shown : String → String) : List String → Task Unit
  | [] => pure ()
  | name :: arguments => do
    match ← becoming (α := Unit) launch name arguments with
    | .ok () => pure ()
    | .error e => die (unstartable e) (shown name ++ ": " ++ reasonOf e)

/-- Do something to the process. -/
def changeProcess (change : Process → Process) : Task Unit :=
  Act.update fun d => { d with process := change d.process }

end AslBuild.Tools
