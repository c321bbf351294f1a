import AslBuild.Shell.Builtin.Table
import AslBuild.Shell.Redirection
set_option autoImplicit false

/-!
# Scripts and processes

A shell reads a script one complete command at a time, and runs each before it reads the next. Parts
of a script are run by shells of their own, which start with all that the shell knows and hand back
nothing but a status.

## Main definitions

* `AslBuild.Shell.runSource`, `AslBuild.Shell.runText` — run a script.
* `AslBuild.Shell.heed` — do what is to be done about signals.
* `AslBuild.Shell.conclude` — run something as all that a shell does.
* `AslBuild.Shell.branch` — run something in a shell of its own.
* `AslBuild.Shell.startJob`, `AslBuild.Shell.runJobs` — commands in the background.
* `AslBuild.Shell.startProgram` — start the program of a name.
-/

namespace AslBuild.Shell

open FileSystem Host Text

/-! ## Scripts -/

/-- Print to the stream for messages. -/
def note (text : String) : Sh Unit := onMachine fun p => printTo p 2 text

/-- What the language with extensions says of a script that cannot be read. -/
def extendedReason (reason : String) : String :=
  if reason.startsWith "end of file" then "syntax error: unexpected end of file"
  else if reason.startsWith "unclosed " then
    "unexpected EOF while looking for matching \x60" ++ (reason.drop 9).toString ++ "'"
  else match reason.splitOn "\"" with
    | _ :: sign :: _ => "syntax error near unexpected token \x60" ++ sign ++ "'"
    | _ =>
      if reason.startsWith "newline" then "syntax error near unexpected token \x60newline'"
      else "syntax error: " ++ reason

/-- Say that a script cannot be read, and end. In the language with extensions, the line is shown if
it is there. -/
def misread {α : Type} (source : Source) (m : Misreading) : Sh α := do
  Act.update fun s => { s with line := m.line, reached := m.line }
  if (← Act.read).extended then
    let reason := extendedReason m.reason
    complain reason
    if reason.startsWith "syntax error near" then
      let lines := (String.ofList source.rest).splitOn "\n"
      complain ("\x60" ++ (lines[m.line - source.line]?).getD "" ++ "'")
    setStatus 2
    Act.fail .exit
  else fail ("Syntax error: " ++ m.reason)

/-- Read the next command of a script. Its documents become known. -/
def readCommand (source : Source) : Sh (Except Misreading (Option Command) × Source) := do
  let s ← Act.read
  let (result, rest) := Source.next { source with
    nextDocument := s.nextDocument, documents := [], extended := s.extended, warnings := []
    groups := s.has "extglob"
    aliases := if s.extended && !s.has "expand_aliases" then [] else s.aliases, replaced := [] }
  Act.update fun s => { s with
    documents := rest.documents ++ s.documents
    nextDocument := rest.nextDocument
    reached := rest.line }
  if s.has "verbose" then
    note (String.ofList (source.rest.take (source.rest.length - rest.rest.length)))
  rest.warnings.forM fun (line, text) =>
    note (s.name ++ ": line " ++ toString line ++ ": warning: " ++ text ++ "\n")
  pure (result, rest)

/-- Read a script and run it, at most so many commands of it. Whether there were any is given. -/
def runSource (e : Engine) (tested : Bool) : Nat → Bool → Source → Sh Bool
  | 0, any, _ => pure any
  | n + 1, any, source => do
    let (result, rest) ← readCommand source
    match result with
    | .error m => misread source m
    | .ok none => pure any
    | .ok (some .nothing) => runSource e tested n any rest
    | .ok (some c) => do
      if !(← Act.read).has "noexec" then
        match ← (e.run tested c).attempt with
        | .ok () => pure ()
        | .error flow =>
          if flow = .failed ∧ (← Act.read).extended then pure () else Act.fail flow
      runSource e tested n true rest

/-- Run the text of a script. Whether there were any commands is given. -/
def runText (e : Engine) (tested : Bool) (text : String) : Sh Bool :=
  runSource e tested (text.length + 2) false { rest := text.toList }

/-- Run something as a script of its own. -/
def deeper {α : Type} (x : Sh α) : Sh α := do
  let depth := (← Act.read).depth
  Act.update fun s => { s with depth := depth + 1 }
  afterwards x fun s => { s with depth }

/-- The number of an occasion. -/
def occasion (name : String) : Nat := (Builtin.occasions.lookup name).getD 0

/-- Run what is to be done on an occasion, if there is something to do, and go on as before. -/
def runTrap (e : Engine) (number : Nat) : Sh Unit := do
  let s ← Act.read
  match s.traps.lookup number with
  | none => pure ()
  | some text => do
    Act.update fun s => { s with
      traps := s.traps.filter fun t => t.1 != number
      occupied := true }
    let _ ← deeper
      (runSource e false (text.length + 2) false { rest := text.toList, line := s.line })
    Act.update fun t => { t with
      status := s.status
      stageStatus := s.stageStatus
      line := s.line
      occupied := s.occupied
      traps := if t.traps.any fun x => x.1 == number then t.traps else (number, text) :: t.traps }

/-- A command is about to be run. It becomes known, and what is to be done before commands is done. -/
def beforeCommand (e : Engine) (line : Nat) (text : String) : Sh Unit := do
  Act.update fun s => { s with line, current := if s.occupied then s.current else text }
  runTrap e (occasion "DEBUG")

/-- The occasions that a function does not have in common with what is around it, unless options say
so. -/
def hiddenOccasions (s : State) : List Nat :=
  (if s.has "functrace" then [] else [occasion "DEBUG", occasion "RETURN"]) ++
    if s.has "errtrace" then [] else [occasion "ERR"]

/-- Do a step without what is done on some occasions, which comes back afterwards unless something else
was put in its place. -/
def hidingTraps {α : Type} (x : Sh α) : Sh α := do
  let s ← Act.read
  let hidden := s.traps.filter fun t => (hiddenOccasions s).contains t.1
  Act.update fun s => { s with traps := s.traps.filter fun t => !(hiddenOccasions s).contains t.1 }
  afterwards x fun t => { t with
    traps := t.traps ++ hidden.filter fun h => !t.traps.any fun x => x.1 == h.1 }

/-! ## Signals -/

/-- The signal that nobody can do anything about. -/
def deadly : Nat := 9

/-- Do what is to be done about a signal. -/
def heedOne (e : Engine) (signal : Nat) : Sh Unit := do
  let s ← Act.read
  let action := if signal = deadly then none else s.traps.lookup signal
  match action with
  | some text =>
    Act.update fun s => { s with resumed := s.resumed.or (some s.status) }
    let _ ← afterwards (deeper (runText e false text)) fun t => { t with resumed := s.resumed }
    setStatus s.status
  | none =>
    if Signal.isHarmless signal || (s.process.deaf.contains signal && signal != deadly) then pure ()
    else Act.fail (.killed signal)

/-- Do what is to be done about the signals that were sent. -/
def heed (e : Engine) : Sh Unit := do
  if (← Act.read).machine.signals.isEmpty then pure ()
  else (← noticed).forM (heedOne e)

/-! ## Jobs -/

/-- Run the commands in the background that have not run yet. At most so many are run. -/
def runJobs : Nat → Sh Unit
  | 0 => pure ()
  | n + 1 => do
    match (← Act.read).jobs.find? fun j => j.ended.isNone with
    | none => pure ()
    | some job => do
      let status ← onMachine fun _ => job.run
      Act.update fun s => { s with
        jobs := s.jobs.map fun j =>
          if j.number == job.number && j.ended.isNone then { j with ended := some status } else j
        machine := { s.machine with alive := s.machine.alive.erase job.number } }
      runJobs n

/-- Run all commands in the background that have not run yet. -/
def runAllJobs : Sh Unit := do runJobs (← Act.read).jobs.length

/-! ## Shells of their own -/

/-- How a shell ends after it has done all it has to do, but for what is done at its end. -/
def endOf (flow : Except Flow Unit) (s : State) : Status :=
  match flow with
  | .error (.killed signal) => .killed signal
  | _ => .exited (s.status % 256)

/-- What a shell does at its end, given how it ends otherwise. -/
def atEnd (e : Engine) (ending : Status) : Sh Status := do
  let s ← Act.read
  match ending, s.traps.lookup 0 with
  | .exited code, some text => do
    Act.update fun s => { s with
      traps := s.traps.filter fun t => t.1 != 0
      command := none
      resumed := some code }
    match ← (runText e false text).attempt with
    | .ok _ => pure (.exited code)
    | .error flow => pure (endOf (.error flow) (← Act.read))
  | ending, _ => pure ending

/-- Run something as all that a shell does. -/
def conclude (e : Engine) (x : Sh Unit) (s : State) : Status × State :=
  let whole : Sh Status := do
    let flow ← (do x; heed e).attempt
    let ending ← atEnd e (endOf flow (← Act.read))
    runAllJobs
    pure ending
  match whole s with
  | (.ok ending, s) => (ending, s)
  | (.error flow, s) => (endOf (.error flow) s, s)

/-- The state that a shell of its own starts with, given the number of its process. -/
def State.child (s : State) (number : Nat) : State :=
  { s with
    process := { s.process with number, parent := s.process.number }
    jobs := []
    shells := s.shells + 1
    resumed := none
    outerTraps := if s.extended then s.traps else []
    traps := s.traps.filter fun t => t.2.isEmpty && t.1 != 0 }

/-- Go on after the end of another process: the ends of jobs are noticed, and the working directory
stays where it was, if someone removed it. -/
def settle : Sh Unit := Act.update fun s =>
  { s with
    process := { s.process with cwd := s.disk.settled.cwd }
    jobs := s.jobs.map fun j => { j with noticed := j.ended.isSome } }

/-- The machine after the end of a process. -/
def withoutProcess (number : Nat) (m : Machine) : Machine :=
  { m with
    alive := m.alive.erase number
    signals := m.signals.filter fun x => x.1 != number }

/-- Run something in a shell of its own, the process of which may differ. -/
def branch (e : Engine) (change : Process → Process) (x : Sh Unit) : Sh Status := do
  let s ← Act.read
  let number := s.machine.lastNumber + 1
  let child := s.child number
  let (ending, after) := conclude e x { child with
    machine := { s.machine with lastNumber := number, alive := number :: s.machine.alive }
    process := change child.process }
  Act.update fun s => { s with machine := withoutProcess number after.machine }
  settle
  pure ending

/-- Start something in the background. -/
def startJob (e : Engine) (x : Sh Unit) : Sh Unit := do
  let s ← Act.read
  let number := s.machine.lastNumber + 1
  let quiet ← onMachine fun _ => addChannel { target := .device .null, readable := true }
  let child := s.child number
  let child := { child with process := child.process.setChannel 0 (some quiet) }
  let run : Run Status := fun m =>
    let (ending, after) := conclude e x { child with machine := m }
    (ending, withoutProcess number after.machine)
  let isBusy (slot : Nat) : Bool := s.jobs.any fun j => j.slot == slot && !j.awaited
  let slot := ((List.range' 1 s.jobs.length).find? fun n => !isBusy n).getD (s.jobs.length + 1)
  Act.update fun s => { s with
    machine := { s.machine with lastNumber := number, alive := number :: s.machine.alive }
    jobs := (s.jobs.filter fun j => j.slot != slot) ++ [{ slot, number, run }]
    lastJob := some number
    status := 0 }

/-- Say that a signal ended a process that was waited for. -/
def report (ending : Status) : Sh Unit := do
  match ending with
  | .killed signal =>
    if Signal.isSilent signal then pure ()
    else if (← Act.read).extended then complain (Signal.description signal)
    else note (Signal.description signal ++ "\n")
  | .exited _ => pure ()

/-- Go on after a process has ended. -/
def take (ending : Status) : Sh Unit := do
  report ending
  setStatus ending.number

/-- Run the commands that read what was written to channels since there were only some. -/
def runConsumers (e : Engine) (before : List (Nat × Command)) : Sh Unit := do
  let s ← Act.read
  let waiting := s.consumers.drop before.length
  Act.update fun s => { s with consumers := before }
  waiting.forM fun (channel, body) => do
    let _ ← branch e (fun p => p.setChannel 0 (some channel)) (e.run false body)

/-! ## Programs -/

/-- The place of a variable among those that programs are started with. -/
def variableRank (name : String) : Nat :=
  match name.toList with
  | [] => 0
  | c :: cs => ((c :: cs).foldl (fun n c => n + c.toNat) (16 * c.toNat)) % 39

/-- The variables that a program is started with. -/
def State.passed (s : State) : List (String × String) :=
  if s.extended then s.exports
  else s.exports.mergeSort fun a b => variableRank a.1 ≤ variableRank b.1

/-- The shell that runs a file that is not a program by itself. -/
def defaultShell (extended : Bool) : String := if extended then "/bin/bash" else "/bin/sh"

/-- Start the program at a path, or a shell for it if it is no program by itself. -/
def startAt (e : Engine) (extended : Bool) (path name : String) (arguments : List String)
    (process : Process) : Run (Except IoError Status) := do
  match ← e.launch { path, name, arguments, process } with
  | .error (.os errno) =>
    if errno = .execFormat then
      let shell := defaultShell extended
      e.launch { path := shell, name := shell, arguments := path :: arguments, process }
    else pure (.error (.os errno))
  | r => pure r

/-- Start the first program of some paths that can be started. The failure of the search is the last
one that says more than that there is nothing. -/
def startFirst (e : Engine) (extended : Bool) (name : String) (arguments : List String)
    (process : Process) : IoError → List String → Run (Except IoError Status)
  | failure, [] => pure (.error failure)
  | failure, path :: paths => do
    match ← startAt e extended path name arguments process with
    | .ok ending => pure (.ok ending)
    | .error problem =>
      let nothing := problem = .os .noEntry ∨ problem = .os .notDirectory
      startFirst e extended name arguments process (if nothing then failure else problem) paths

/-- What is said of a command that cannot be started, and the status. -/
def startProblem (extended : Bool) (name : String) (problem : IoError) : String × Nat :=
  let nothing := problem = .os .noEntry ∨ problem = .os .notDirectory
  let isPath := name.toList.contains '/'
  let status := if nothing || problem == .os .tooManyLinks || problem == .os .nameTooLong then 127
    else 126
  let reason :=
    if extended then
      if nothing && !isPath then "command not found" else reasonOf problem
    else if nothing then "not found" else reasonOf problem
  (name ++ ": " ++ reason, status)

/-- The commands whose paths are known, after another use of one of them. -/
def counted (name path : String) (hashed : List (String × Known)) : List (String × Known) :=
  if hashed.any (·.1 == name) then
    hashed.map fun h => if h.1 == name then (name, { h.2 with uses := h.2.uses + 1 }) else h
  else (name, ⟨path, 1⟩) :: hashed

/-- Start the program of a name, in a process of its own or in the place of the shell. If there is
none, what is said of it and the status are given. -/
def startProgram (e : Engine) (inPlace : Bool) (name : String) (arguments : List String) :
    Sh (Except (String × Nat) Status) := do
  let s ← Act.read
  let paths : Except (String × Nat) (List String) :=
    if name.toList.contains '/' then
      if s.extended && s.disk.isDir ⟨Raw.toText name⟩ then
        .error (name ++ ": Is a directory", 126)
      else .ok [name]
    else match if s.extended then s.hashed.lookup name else none, commandPath? s name with
      | some known, _ =>
        if s.disk.present ⟨Raw.toText known.path⟩ then .ok [known.path]
        else .error (known.path ++ ": No such file or directory", 127)
      | none, none => .error (startProblem s.extended name (.os .noEntry))
      | none, some (path, false) =>
        if s.extended then .error (path ++ ": Permission denied", 126)
        else .error (name ++ ": Permission denied", 127)
      | none, some (path, true) => .ok ((commandPaths s name).dropWhile (· != path))
  match paths with
  | .error problem => pure (.error problem)
  | .ok paths => do
    if name = "sleep" then runAllJobs
    if !name.toList.contains '/' then
      Act.update fun s => { s with hashed := counted name (paths.headD "") s.hashed }
    let process ← if inPlace then pure s.process else onMachine newProcess
    let process := { process with bindings := s.passed }
    let result ← onMachine fun _ =>
      let run := startFirst e s.extended name arguments process (.os .noEntry) paths
      if inPlace then run else whileAlive process.number run
    settle
    pure (result.mapError (startProblem s.extended name))

end AslBuild.Shell
