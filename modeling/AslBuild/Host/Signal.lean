import AslBuild.Host.Process
set_option autoImplicit false

/-!
# Signals

## Main definitions

* `AslBuild.Host.Signal.names` — the signals by name.
* `AslBuild.Host.Signal.ofText?` — the signal of a name or of a number.
* `AslBuild.Host.Signal.description` — what is said of a process that a signal ended.
* `AslBuild.Host.sendSignal` — send a signal to a process.
* `AslBuild.Host.passTime` — let time pass.
-/

namespace AslBuild.Host

namespace Signal

/-- The signals by name. -/
def names : List (String × Nat) :=
  [("HUP", 1), ("INT", 2), ("QUIT", 3), ("ILL", 4), ("TRAP", 5), ("ABRT", 6), ("BUS", 7),
    ("FPE", 8), ("KILL", 9), ("USR1", 10), ("SEGV", 11), ("USR2", 12), ("PIPE", 13), ("ALRM", 14),
    ("TERM", 15), ("STKFLT", 16), ("CHLD", 17), ("CONT", 18), ("STOP", 19), ("TSTP", 20),
    ("TTIN", 21), ("TTOU", 22), ("URG", 23), ("XCPU", 24), ("XFSZ", 25), ("VTALRM", 26),
    ("PROF", 27), ("WINCH", 28), ("IO", 29), ("PWR", 30), ("SYS", 31)]

/-- The last signal. -/
def last : Nat := 64

/-- The first signal without a meaning of its own. -/
def firstFree : Nat := 34

/-- The name of a signal. -/
def name (signal : Nat) : String :=
  match names.find? fun n => n.2 == signal with
  | some n => n.1
  | none =>
    if signal < firstFree ∨ last < signal then toString signal
    else if signal = firstFree then "RTMIN"
    else if signal = last then "RTMAX"
    else if signal < 50 then "RTMIN+" ++ toString (signal - firstFree)
    else "RTMAX-" ++ toString (last - signal)

/-- The signal of a name, which may start with `SIG`. -/
def ofName? (text : String) : Option Nat :=
  let text := text.toUpper
  let short := if text.startsWith "SIG" then (text.drop 3).toString else text
  (names.lookup short).or ((List.range' firstFree 31).find? fun n => name n == short)

/-- The signal of a name or of a number. -/
def ofText? (text : String) : Option Nat :=
  if !text.isEmpty && text.toList.all Char.isDigit then text.toNat?.filter (· ≤ last)
  else ofName? text

/-- The signals that do nothing to a process that does not ask for them. -/
def isHarmless (signal : Nat) : Bool := [0, 17, 18, 19, 20, 21, 22, 23, 28].contains signal

/-- The texts for signals that end a process. -/
def descriptions : List (Nat × String) :=
  [(1, "Hangup"), (2, "Interrupt"), (3, "Quit"), (4, "Illegal instruction"),
    (5, "Trace/breakpoint trap"), (6, "Aborted"), (7, "Bus error"), (8, "Floating point exception"),
    (9, "Killed"), (10, "User defined signal 1"), (11, "Segmentation fault"),
    (12, "User defined signal 2"), (13, "Broken pipe"), (14, "Alarm clock"), (15, "Terminated"),
    (16, "Stack fault"), (24, "CPU time limit exceeded"), (25, "File size limit exceeded"),
    (26, "Virtual timer expired"), (27, "Profiling timer expired"), (29, "I/O possible"),
    (30, "Power failure"), (31, "Bad system call")]

/-- What is said of a process that a signal ended. -/
def description (signal : Nat) : String :=
  (descriptions.lookup signal).getD ("Unknown signal " ++ toString signal)

/-- The signals that end a process without a word about it. -/
def isSilent (signal : Nat) : Bool := signal == 2 || signal == 13

end Signal

/-- Send a signal to a process. There may be no such process. -/
def sendSignal (number signal : Nat) : Run Bool := fun m =>
  if m.alive.contains number then
    (true, if signal = 0 then m else { m with signals := m.signals ++ [(number, signal)] })
  else (false, m)

/-- Let time pass up to some time, during which at most so many alarms go off. A process that notices
the signal of one stops waiting for it. -/
def passUpTo (p : Process) (stop : Int) : Nat → Run (Option Nat)
  | 0 => pure none
  | n + 1 => fun m =>
    let due := (m.alarms.filter fun a => a.above < p.number && a.time ≤ stop).mergeSort
      fun a b => a.time ≤ b.time
    let at_ (time : Int) : Machine := { m with tree := { m.tree with clock := max m.tree.clock time } }
    match due with
    | [] => (none, at_ stop)
    | a :: _ =>
      let others := m.alive.filter fun number => a.above < number && number != p.number
      let m := { at_ a.time with
        alarms := m.alarms.filter (· != a)
        signals := m.signals ++ others.map fun number => (number, a.signal) }
      if p.deaf.contains a.signal then passUpTo p stop n m else (some a.signal, m)

/-- Let thousandths of a second pass for a process. The signal of an alarm that ends it meanwhile is
given. -/
def passTime (p : Process) (span : Int) : Run (Option Nat) := fun m =>
  passUpTo p (m.tree.clock + span) (m.alarms.length + 1) m

/-- Make a process that is about to run. -/
def newProcess (p : Process) : Run Process := fun m =>
  ({ p with number := m.lastNumber + 1, parent := p.number },
    { m with lastNumber := m.lastNumber + 1 })

/-- Do something as a process that is alive meanwhile. -/
def whileAlive {α : Type} (number : Nat) (x : Run α) : Run α := fun m =>
  let (a, after) := x { m with alive := number :: m.alive }
  (a, { after with alive := after.alive.erase number })

end AslBuild.Host
