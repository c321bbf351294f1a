import AslBuild.Tools.Running
import AslBuild.Tools.Values
set_option autoImplicit false

/-!
# Programs in other circumstances

## Main definitions

* `AslBuild.Tools.timeout` — run a program for some time.
* `AslBuild.Tools.nice`, `AslBuild.Tools.nohup`, `AslBuild.Tools.setsid`, `AslBuild.Tools.stdbuf` —
  run a program with less haste, with a signal not noticed, on its own, or with other buffers.
-/

namespace AslBuild.Tools

open FileSystem Host Text

/-- What is said of a program that cannot be run. -/
def failedToRun (name : String) : String := "failed to run command " ++ quoted name

/-! ## For some time -/

/-- The options of `timeout`. -/
def timeoutChoices : Choices where
  letters := "fk:ps:v"
  words := [("foreground", 'f'), ("kill-after", 'k'), ("preserve-status", 'p'), ("signal", 's'),
    ("verbose", 'v')]
  ordered := true
  trouble := 125

/-- The span of time that an argument spells. -/
def spanOf (text : String) : Task Int := do
  match interval? text with
  | some span => pure span
  | none => misuse 125 ("invalid time interval " ++ quoted text)

/-- Run a program, and send it a signal if it has not ended after some time. -/
def timeout : Tool := .ofLaunching fun launch args => do
  let g ← given timeoutChoices args
  let signal ← match g.value? 's' with
    | none => pure 15
    | some text =>
      match Signal.ofText? text with
      | some signal => pure signal
      | none => misuse 125 (cited text ++ ": invalid signal")
  let after ← (g.value? 'k').mapM spanOf
  match g.operands with
  | [] | [_] => advise 125
  | text :: name :: arguments => do
    let span ← spanOf text
    let own := (← Act.read).process.number
    let start := (← Act.read).machine.tree.clock
    let first : Alarm := ⟨start + span, signal, own⟩
    let alarms := if span ≤ 0 then []
      else first :: ((after.filter (0 < ·)).map fun more =>
        Alarm.mk (start + span + more) 9 own).toList
    onMachine fun _ => modify fun m => { m with alarms := alarms ++ m.alarms }
    let ending ← running launch id name arguments
    let left := (← Act.read).machine.alarms
    onMachine fun _ => modify fun m => { m with alarms := m.alarms.filter fun a => a.above != own }
    let wentOff := !alarms.isEmpty && !left.contains first
    if wentOff && g.has 'v' then
      remark ("sending signal " ++ Signal.name signal ++ " to command " ++ cited name)
    match ending with
    | .error e => die (unstartable e) (failedToRun name ++ ": " ++ reasonOf e)
    | .ok status =>
      if wentOff && (signal == 9 || status == .killed 9) && !g.has 'f' then Act.fail (.killed 9)
      else if wentOff && !g.has 'p' && status != .killed 9 then quit 124
      else match status with
        | .killed n => if wentOff then quit (128 + n) else Act.fail status
        | .exited n => quit n

/-! ## Other circumstances -/

/-- The options of `nice`. -/
def niceChoices : Choices where
  letters := "n:0123456789"
  words := [("adjustment", 'n')]
  ordered := true
  trouble := 125

/-- Run a program that gives way to others. -/
def nice : Tool := .ofLaunching fun launch args => do
  let g ← given niceChoices args
  match (g.value? 'n').filter fun t => (Scaled.ofText? t).isNone with
  | some text => die 125 ("invalid adjustment " ++ quoted text)
  | none => pure ()
  match g.operands with
  | [] => say "0\n"
  | words => becomeWords launch quoted words

/-- Run a program that goes on after the user has left. -/
def nohup : Tool := .ofLaunching fun launch args => do
  let g ← given { letters := "", ordered := true, trouble := 125 } args
  if g.operands.isEmpty then misuse 125 "missing operand"
  changeProcess fun p => { p with deaf := 1 :: p.deaf }
  becomeWords launch failedToRun g.operands

/-- Run a program in a session of its own. -/
def setsid : Tool := .ofLaunching fun launch args => do
  let g ← given { letters := "cfw", ordered := true } args
  becomeWords launch (fun name => "failed to execute " ++ name) g.operands

/-- The options of `stdbuf`. -/
def stdbufChoices : Choices where
  letters := "i:o:e:"
  words := [("input", 'i'), ("output", 'o'), ("error", 'e')]
  ordered := true
  trouble := 125

/-- Run a program with other buffers. -/
def stdbuf : Tool := .ofLaunching fun launch args => do
  let g ← given stdbufChoices args
  if g.operands.isEmpty then misuse 125 "missing operand"
  becomeWords launch failedToRun g.operands

end AslBuild.Tools
