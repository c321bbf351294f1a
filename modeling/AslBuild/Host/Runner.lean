import AslBuild.Environment
import AslBuild.Host.Channel
import AslBuild.Host.Search
import AslBuild.Host.Spawn
import AslBuild.Tool.Runner
set_option autoImplicit false

/-!
# Running tools as processes

Every command line is shown as progress before the process is started. A process that ends with a
status other than zero, or by a signal, counts as a failure; so does one that cannot be started.

## Main definitions

* `AslBuild.Host.machineOn`, `AslBuild.Host.processFor` — what a process starts with.
* `AslBuild.Host.call` — start a process for a command.
* `AslBuild.Host.runner` — the runner that starts processes.
-/

namespace AslBuild.Host

open FileSystem Text

/-! ## What processes start with -/

/-- A machine with some files. Its first three channels are an empty input and the streams that the
user sees. -/
def machineOn (d : Disk) : Machine :=
  { tree := d.tree
    temp := d.temp
    channels := #[{ target := .pipe, readable := true },
      { target := .user .out, writable := true }, { target := .user .err, writable := true }]
    lastNumber := 2
    alive := [2, 1] }

/-- The variables that processes are started with. -/
def rawVariables (environment : Environment) : List (String × String) :=
  environment.bindings.map fun b => (Raw.ofText b.1, Raw.ofText b.2)

/-- A process that a session starts. -/
def processFor (environment : Environment) (d : Disk) : Process :=
  { number := 2
    parent := 1
    cwd := d.cwd
    bindings := rawVariables environment
    descriptors := [(0, 0), (1, 1), (2, 2)]
    mask := d.mask }

/-- The start of the program of a command. -/
def startOf (environment : Environment) (c : Command) (d : Disk) : Start :=
  { path := Raw.ofText c.program
    name := Raw.ofText c.program
    arguments := c.arguments.map Raw.ofText
    process := processFor environment d }

/-! ## The runner -/

/-- The failure that a status means, if it means one. -/
def failureOf? (c : Command) : Status → Option ToolFailure
  | .exited 0 => none
  | status => some (c.failed status.code)

/-- What a process prints, as it is passed on to the user. -/
def passedOn (printed : List (Stream × List UInt8)) : List Remark :=
  printed.map fun p => .printed p.1 p.2

/-- Whether a text can be part of a command line. -/
def isPassable (s : String) : Bool := !s.toList.contains (Char.ofNat 0)

/-- Start a process for a command and wait for its end. `shown` chooses what of its output is passed
on, and `value` reads the result off it. -/
def call {α : Type} (launch : Launch) (environment : Environment) (verbose : Bool)
    (shown : List (Stream × List UInt8) → List (Stream × List UInt8))
    (value : List (Stream × List UInt8) → α) (c : Command) (d : Disk) : Reply Unit α :=
  let report : Remark := .logged (Level.progress verbose) c.line
  let started : Except IoError Status × Machine :=
    if (c.program :: c.arguments).all isPassable then
      startByName launch none (startOf environment c d) (machineOn d)
    else (.error .zeroInCommand, machineOn d)
  match started with
  | (.error e, _) =>
    { result := .error (.tool (c.unavailable e)), state := (), tree := d.tree,
      remarks := [report] }
  | (.ok status, m) =>
    let printed := m.printed.reverse
    { result := match failureOf? c status with
        | some failure => .error (.tool failure)
        | none => .ok (value printed)
      state := ()
      tree := m.tree
      remarks := report :: passedOn (shown printed) }

/-- The runner that starts processes. Where programs are found by name may differ from what the
variables say that processes are started with. Output that is asked for is not shown. -/
def runner (launch : Launch) (environment : Environment) (place : SearchPlace) (verbose : Bool) :
    Runner Unit where
  run c d _ := call launch environment verbose id (fun _ => ()) c d
  capture c d _ :=
    call launch environment verbose (fun printed => printed.filter fun p => p.1 == .err)
      (fun printed => Utf8.decode (bytesTo .out printed)) c d
  find name d _ := findProgram place d name

end AslBuild.Host
