import AslBuild.Host.Signal
import AslBuild.Shell.Builtin.Variables
set_option autoImplicit false

/-!
# Signals and jobs

## Main definitions

* `AslBuild.Shell.Builtin.trap` — say what is done when a signal is noticed.
* `AslBuild.Shell.Builtin.kill` — send signals.
* `AslBuild.Shell.Builtin.jobs`, `AslBuild.Shell.Builtin.resume` — commands in the background.
-/

namespace AslBuild.Shell

open FileSystem Host Text

namespace Builtin

/-! ## Signals -/

/-- What traps of the language with extensions may be set for besides signals, each with a number that
no signal has: every command, a failure, and the end of a function. -/
def occasions : List (String × Nat) := [("DEBUG", 1001), ("ERR", 1002), ("RETURN", 1003)]

/-- The signal that a trap is set for, by name or by number: 0 is the end of the shell. -/
def trapSignal? (extended : Bool) (a : String) : Option Nat :=
  if a.toUpper = "EXIT" then some 0
  else if extended && (occasions.lookup a.toUpper).isSome then occasions.lookup a.toUpper
  else if !extended && a.toUpper.startsWith "SIG" then none
  else Signal.ofText? a

/-- The name of a signal in a shell without extensions. -/
def signalName (signal : Nat) : String :=
  if signal = 16 then "16" else Signal.name signal

/-- How a trap is listed. -/
def trapLine (extended : Bool) (t : Nat × String) : String :=
  let name := if t.1 = 0 then "EXIT"
    else match occasions.find? fun o => o.2 == t.1 with
      | some o => o.1
      | none => if extended then "SIG" ++ Signal.name t.1 else signalName t.1
  "trap -- " ++ quoted extended t.2 ++ " " ++ name ++ "\n"

/-- List what is done about signals: about all of them, or about some. -/
def listTraps (names : List String) : Sh Nat := do
  let s ← Act.read
  let traps := s.traps ++ s.outerTraps.filter fun t => !s.traps.any fun x => x.1 == t.1
  if names.isEmpty then
    print (String.join ((traps.mergeSort fun a b => a.1 ≤ b.1).map (trapLine s.extended)))
    pure 0
  else
    names.foldlM (fun status name => do
      match trapSignal? s.extended name with
      | some signal =>
        match traps.find? fun t => t.1 == signal with
        | some t => print (trapLine s.extended t)
        | none => pure ()
        pure status
      | none =>
        complain (name ++ ": invalid signal specification")
        pure 1) 0

/-- Let something be done about a signal of a name, or nothing special. -/
def setTrap (action : Option String) (status : Nat) (name : String) : Sh Nat := do
  let s ← Act.read
  match trapSignal? s.extended name with
  | none =>
    let message := if s.extended
      then s.lead ++ name ++ ": invalid signal specification\n"
      else "trap: " ++ name ++ ": bad trap\n"
    onMachine fun p => printTo p 2 message
    pure 1
  | some signal =>
    Act.update fun s =>
      let others := s.traps.filter fun t => t.1 != signal
      let deaf := s.process.deaf.filter (· != signal)
      { s with
        traps := match action with
          | some text => (signal, text) :: others
          | none => others
        outerTraps := []
        process := { s.process with
          deaf := if action = some "" ∧ signal ≠ 0 then signal :: deaf else deaf } }
    pure status

/-- All signals in a table of five columns. -/
def signalTable : String :=
  let signals := (List.range (Signal.last + 1)).filter fun n =>
    n != 0 && (n < 32 || Signal.firstFree ≤ n)
  let cell (signal : Nat × Nat) : String :=
    let number := toString signal.1
    String.ofList (List.replicate (2 - number.length) ' ') ++ number ++ ") SIG" ++
      Signal.name signal.1 ++ (if signal.2 % 5 = 4 then "\n" else "\t")
  String.join (signals.zipIdx.map cell) ++ "\n"

/-- Say what is done when a signal is noticed, or at the end. -/
def trap : Builtin := fun args => do
  let s ← Act.read
  let (opts, rest) ← options (if s.extended then "lp" else "") args
  if given 'l' opts then
    print signalTable
    pure 0
  else if given 'p' opts then listTraps rest
  else match rest with
    | [] => listTraps []
    | first :: others => do
      let isSignal := (trapSignal? s.extended first).isSome
      let resets := (others.isEmpty && (isSignal || !s.extended)) ||
        (first.toNat?.isSome && isSignal)
      if others.isEmpty && !resets then
        sayUsage
        pure 2
      else
        let action := if resets || first == "-" then none else some first
        (if resets then rest else others).foldlM (setTrap action) 0

/-! ## Jobs -/

/-- The job that a name stands for, the sign in front of which was read: a number, or a sign for the
last one or the one before it. The failure is what is said if there is none. -/
def namedJob (s : State) (name : String) : Except String Job :=
  if name = "" ∨ name = "+" ∨ name = "%" then
    (s.jobs.getLast?).elim (.error "No current job") .ok
  else if name = "-" then
    (s.jobs.dropLast.getLast?).elim (.error "No previous job") .ok
  else
    ((name.toNat?).bind fun n => s.jobs.find? (·.slot == n)).elim
      (.error ("No such job: %" ++ name)) .ok

/-- The job of a name, which has to be one. -/
def job (a : String) : Sh Job := do
  let s ← Act.read
  match namedJob s (a.drop 1).toString with
  | .ok j => pure j
  | .error message => fail (if s.extended then a ++ ": no such job" else message)

/-- List the jobs, of which nothing is known but whether there are some. -/
def jobs : Builtin := fun args => do
  let (opts, rest) ← options "lp" args
  if rest.isEmpty then
    let s ← Act.read
    if given 'p' opts then print (String.join (s.jobs.map fun j => toString j.number ++ "\n"))
  else rest.forM fun a => do let _ ← job (if a.startsWith "%" then a else "%" ++ a)
  pure 0

/-- Let a job go on: only a shell with a terminal could. -/
def resume : Builtin := fun args => do
  if (← Act.read).extended then fail "no job control"
  else
    let name := args.head?
    let _ ← job (match name with
      | some a => if a.startsWith "%" then a else "%" ++ a
      | none => "%")
    fail ("job " ++ name.getD "(null)" ++ " not created under job control")

/-- Send a signal to a process or to a job. -/
def signalTo (signal : Nat) (a : String) : Sh Nat := do
  let s ← Act.read
  let number? ← if a.startsWith "%" then do pure (some (← job a).number) else pure a.toNat?
  match number? with
  | none =>
    if s.extended then
      complain (a ++ ": arguments must be process or job IDs")
      pure 1
    else fail ("Illegal number: " ++ a)
  | some number =>
    match s.jobs.find? (·.number == number) with
    | some job =>
      if job.ended.isNone && !Signal.isHarmless signal then
        Act.update fun s => { s with jobs := s.jobs.map fun j =>
          if j.number == number then { j with ended := some (.killed signal) } else j }
      pure 0
    | none =>
      if ← onMachine fun _ => sendSignal number signal then pure 0
      else
        complain (if s.extended then "(" ++ a ++ ") - No such process" else "No such process\n")
        pure 1

/-- What is said of arguments that make no sense to `kill`. -/
def killUsage : String :=
  "Usage: kill [-s sigspec | -signum | -sigspec] [pid | job]... or\nkill -l [exitstatus]"

/-- Send a signal to some processes and jobs. -/
def signalAll (signal : Nat) (targets : List String) : Sh Nat := do
  let extended := (← Act.read).extended
  if targets.isEmpty then
    if extended then
      sayUsage
      pure 2
    else fail killUsage
  else if extended then
    let statuses ← targets.mapM fun a => do
      match ← (signalTo signal a).attempt with
      | .ok status => pure status
      | .error .failed => pure 1
      | .error flow => Act.fail flow
    pure (if statuses.contains 0 then 0 else 1)
  else targets.foldlM (fun status a => do pure (max status (← signalTo signal a))) 0

/-- The name of a signal, or the number of a name. -/
def nameSignal (a : String) : Sh Unit := do
  let extended := (← Act.read).extended
  let number? := a.toNat?.filter fun _ => a.toList.all Char.isDigit
  let refused {α : Type} : Sh α :=
    if extended then fail (a ++ ": invalid signal specification")
    else match number? with
      | some _ => fail ("invalid signal number or exit status: " ++ a)
      | none => fail ("Illegal number: " ++ a)
  match number? with
  | some n =>
    let signal := if 128 < n then n - 128 else n
    if Signal.last < signal ∨ (signal = 0 ∧ !extended) then refused
    else if extended && 31 < signal && signal < Signal.firstFree then pure ()
    else if signal = 0 then print "EXIT\n"
    else print ((if extended then Signal.name signal else signalName signal) ++ "\n")
  | none =>
    match if extended then trapSignal? true a else none with
    | some n => print (toString n ++ "\n")
    | none => refused

/-- The names of some signals, or all of them. -/
def nameSignals (args : List String) : Sh Nat := do
  let extended := (← Act.read).extended
  match args with
  | [] =>
    print (if extended then signalTable
      else String.join ((List.range (Signal.last + 1)).map fun n => signalName n ++ "\n"))
    pure 0
  | a :: more =>
    if extended then eachArgument nameSignal (a :: more)
    else
      nameSignal a
      pure 0

/-- Send signals. -/
def plainKill : Builtin := fun args => do
  match args with
  | [] => fail killUsage
  | "-l" :: rest => nameSignals rest
  | ["-s"] => fail "No arg for -s option"
  | "-s" :: name :: targets =>
    match Signal.ofText? name with
    | some signal => signalAll signal targets
    | none => fail ("invalid signal number or name: " ++ name)
  | "--" :: targets => signalAll 15 targets
  | a :: targets =>
    match a.toList with
    | '-' :: c :: cs =>
      match Signal.ofText? (String.ofList (c :: cs)) with
      | some signal => signalAll signal (if targets.head? = some "--" then targets.tail else targets)
      | none => fail ("Illegal option -" ++ c.toString)
    | _ => signalAll 15 args

/-- What the arguments of `kill` say in the language with extensions. -/
structure KillPlan where
  /-- Whether signals are listed. -/
  lists : Bool := false
  /-- The signal, as it is spelled. -/
  signal : String := "TERM"
  /-- The other arguments. -/
  rest : List String := []

/-- The signal that an argument spells, and whether its letter was that of an option. -/
def spelledSignal : List Char → String × Bool
  | 's' :: d :: cs =>
    let whole := String.ofList ('s' :: d :: cs)
    if d.isAlpha && (trapSignal? true whole).isNone then (String.ofList (d :: cs), true)
    else (whole, false)
  | 'n' :: d :: cs =>
    if d.isDigit then (String.ofList (d :: cs), true) else (String.ofList ('n' :: d :: cs), false)
  | cs => (String.ofList cs, false)

/-- What the arguments of `kill` say, of which a signal was read or not. -/
def readKill (plan : KillPlan) (known : Bool) : List String → Sh KillPlan
  | [] => pure plan
  | a :: args =>
    if a = "-l" ∨ a = "-L" then readKill { plan with lists := true } known args
    else if a = "-s" ∨ a = "-n" then
      match args with
      | [] => fail (a ++ ": option requires an argument")
      | name :: more => readKill { plan with signal := name } known more
    else if a = "--" then pure { plan with rest := args }
    else if a.startsWith "-" ∧ a ≠ "-" ∧ !known then
      let (signal, isOption) := spelledSignal (a.toList.drop 1)
      readKill { plan with signal } (!isOption) args
    else pure { plan with rest := a :: args }

/-- Send signals. -/
def kill : Builtin := fun args => do
  if !(← Act.read).extended then plainKill args
  else if args.isEmpty then
    sayUsage
    pure 2
  else
    let plan ← readKill {} false args
    if plan.lists then nameSignals plan.rest
    else match trapSignal? true plan.signal with
      | some signal => signalAll signal plan.rest
      | none => fail (plan.signal ++ ": invalid signal specification")

end Builtin

end AslBuild.Shell
