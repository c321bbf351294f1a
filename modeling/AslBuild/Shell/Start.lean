import AslBuild.Shell.Run
set_option autoImplicit false

/-!
# The shell as a program

A shell is started with options, and with a script: a text, a file, or its input.

## Main definitions

* `AslBuild.Shell.Plan` — what a shell is to do.
* `AslBuild.Shell.freshState` — the state that a shell starts with.
* `AslBuild.Shell.runShell` — what the program does.
-/

namespace AslBuild.Shell

open FileSystem Host Text

/-- What a shell is to do, as far as its arguments say. -/
structure Plan where
  /-- The settings of options, in their order. -/
  settings : List (List Char × Bool × List String) := []
  /-- Whether the script is a text among the arguments. -/
  givesText : Bool := false
  /-- Whether the script is the input. -/
  readsInput : Bool := false
  /-- The arguments behind the options. -/
  rest : List String := []

/-- The long options that make no difference. -/
def ignored : List String := ["--login", "--noprofile", "--norc", "--posix", "--noediting"]

/-- The plan that arguments ask for. At most so many arguments are read as options. -/
def planUpTo : Nat → List String → Plan → Plan
  | 0, args, plan => { plan with rest := args }
  | _, [], plan => plan
  | n + 1, a :: args, plan =>
    match a.toList with
    | ['-'] | ['-', '-'] => { plan with rest := args }
    | '-' :: '-' :: _ =>
      if ignored.contains a then planUpTo n args plan
      else { plan with settings := plan.settings ++ [(a.toList.tail, true, [])], rest := args }
    | sign :: cs =>
      if (sign = '-' ∨ sign = '+') ∧ !cs.isEmpty then
        let on := sign == '-'
        let letters := cs.filter fun c => c != 'c' && c != 's' && c != 'l'
        let names := args.take (cs.count 'o')
        planUpTo n (args.drop names.length) { plan with
          settings := plan.settings ++ [(letters, on, names)]
          givesText := plan.givesText || (on && cs.contains 'c')
          readsInput := plan.readsInput || (on && cs.contains 's') }
      else { plan with rest := a :: args }
    | [] => { plan with rest := a :: args }

/-- The plan that arguments ask for. -/
def planOf (args : List String) : Plan := planUpTo (args.length + 1) args {}

/-- The options of a shell with extensions that are set if nobody asks. -/
def usualOptions (extended : Bool) : List String :=
  if extended then ["hashall", "braceexpand", "interactive-comments"] ++ usualShellOptions else []

/-- The working directory as a text: as a variable says, if that leads there. -/
def directoryText (d : Disk) (said : Option String) : Option String :=
  match said with
  | some path =>
    match d.locate ⟨Raw.toText path⟩ with
    | .ok loc => if path.startsWith "/" ∧ loc = d.cwd then some path else placeOf d.cwd
    | .error _ => placeOf d.cwd
  | none => placeOf d.cwd
where
  /-- The path to a directory that was not removed. -/
  placeOf (loc : Location) : Option String :=
    if isFixed loc && !loc.isEmpty then none else some (Builtin.physical loc)

/-- The variables that a shell starts with besides those of its process. -/
def ownVariables (extended : Bool) (p : Process) : List (String × Variable) :=
  let plain (name value : String) : String × Variable := (name, { value := some (.text value) })
  let number (name value : String) (locked : Bool) : String × Variable :=
    (name, { value := some (.text value), locked, style := .integer })
  [plain "IFS" " \t\n", plain "OPTIND" "1", plain "PS4" "+ "] ++
    if extended then
      [plain "BASH" "/bin/bash", plain "BASH_VERSION" "5.2.21(1)-release", plain "SHLVL" "1",
        plain "OSTYPE" "linux-gnu", plain "MACHTYPE" "x86_64-pc-linux-gnu",
        plain "HOSTTYPE" "x86_64", plain "OPTERR" "1", number "UID" "1000" true,
        number "EUID" "1000" true, number "PPID" (toString p.parent) true,
        number "RANDOM" "0" false, number "SECONDS" "0" false,
        number "EPOCHSECONDS" "1700000000" false]
    else [plain "PPID" (toString p.parent), plain "PS1" "$ ", plain "PS2" "> "]

/-- The state that a shell starts with. -/
def freshState (extended : Bool) (name : String) (arguments : List String) (p : Process)
    (m : Machine) : State :=
  let own := ownVariables extended p
  let given := (p.bindings.filter fun v =>
    isName v.1.toList && !own.any fun o => o.1 == v.1 && o.1 != "PS4").map
      fun v => (v.1, ({ value := some (.text v.2), exported := true } : Variable))
  let search : List (String × Variable) :=
    if given.any (·.1 == "PATH") then []
    else [("PATH", { value := some (.text State.defaultPath) })]
  let s : State :=
    { machine := m
      process := p
      name
      extended
      arguments
      bindings := given.reverse ++ search ++ own.filter fun o => !given.any (·.1 == o.1)
      options := usualOptions extended
      own := p.number }
  match directoryText s.disk (s.get? "PWD") with
  | some here => s.put "PWD" (some { value := some (.text here), exported := true })
  | none => s

/-- Set the options that a plan asks for. -/
def setPlanned : List (List Char × Bool × List String) → Sh Unit
  | [] => pure ()
  | (letters, on, names) :: rest => do
    let _ ← Builtin.setLetters on letters names
    setPlanned rest

/-- Read the whole script from a channel, and run it. -/
def runChannel (e : Engine) (number : Nat) : Sh Unit := do
  let text ← onMachine fun p => readText p number
  let _ ← runText e false (text.toOption.getD "")

/-- Run the script in a file. -/
def runFile (e : Engine) (path : String) : Sh Unit := do
  match ← onMachine fun p => openPath p path .read with
  | .error problem => do
    if (← Act.read).extended then
      note ((← Act.read).name ++ ": " ++ path ++ ": " ++ reasonOf problem ++ "\n")
      setStatus 127
      Act.fail .exit
    else fail (cannotOpen false false path problem)
  | .ok channel => do
    let before := (← Act.read).process
    let number := 10
    setStream number (some channel)
    let text ← onMachine fun p => readText p number
    Act.update fun s => { s with process := before, name := path }
    let _ ← runText e false (text.toOption.getD "")

/-- What the program does with its arguments. -/
def perform (e : Engine) (args : List String) : Sh Unit := do
  let plan := planOf args
  let s ← Act.read
  match directoryText s.disk none with
  | none => note ("sh: 0: getcwd() failed: No such file or directory\n")
  | some _ => pure ()
  setPlanned plan.settings
  match plan.givesText, plan.rest with
  | true, [] => fail "-c requires an argument"
  | true, text :: rest => do
    Act.update fun s => { s with name := rest.headD s.name, arguments := rest.tail }
    let _ ← runText e false text
  | false, rest => do
    match plan.readsInput, rest with
    | false, path :: rest => do
      Act.update fun s => { s with arguments := rest }
      runFile e path
    | _, rest => do
      Act.update fun s => { s with arguments := rest }
      runChannel e 0

/-- What the program does. -/
def runShell (launch : Launch) (extended : Bool) (start : Start) : Run Status := fun m =>
  let s := freshState extended start.name [] start.process m
  let (ending, s) := conclude (engine launch nestingLimit) (perform (engine launch nestingLimit)
    start.arguments) s
  (ending, s.machine)

end AslBuild.Shell
