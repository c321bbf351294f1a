import AslBuild.Shell.Listing
import AslBuild.Shell.Simple
import AslBuild.Text.Regex
set_option autoImplicit false

/-!
# Running commands

## Main definitions

* `AslBuild.Shell.pipeline`, `AslBuild.Shell.repeatWhile`, `AslBuild.Shell.repeatEach`,
  `AslBuild.Shell.selectFrom` — the ways to put commands together.
* `AslBuild.Shell.execute` — run a command.
* `AslBuild.Shell.engine` — how commands that are nested at most so deep are run.
-/

namespace AslBuild.Shell

open FileSystem Host Text

/-! ## Showing what is run -/

/-- Show the first line of a command that is put together, in the language with extensions. -/
def announce (e : Engine) (line : Nat) (head : String) : Sh Unit := do
  Act.update fun s => { s with line }
  if (← Act.read).extended then traceLine e head

/-! ## Output of commands -/

/-- Run a command, and give the channel that holds what it prints. -/
def feedOf (e : Engine) (c : Command) : Sh Nat := do
  let channel ← onMachine fun _ => newPipe []
  report (← branch e (fun p => p.setChannel 1 (some channel)) (e.run false c))
  pure channel

/-- What a command prints, without the line ends at its end. -/
def outputOf (e : Engine) (c : Command) : Sh String := do
  let channel ← onMachine fun _ => newPipe []
  let ending ← branch e (fun p => p.setChannel 1 (some channel)) (deeper (e.run false c))
  report ending
  Act.update fun s => { s with substituted := ending.number }
  let m := (← Act.read).machine
  let bytes := match m.channels[channel]? with
    | some c => c.held ++ c.arrived.reverse.flatten
    | none => []
  let cs := (bytes.filter (· != 0)).map Raw.charOf
  pure (String.ofList (cs.reverse.dropWhile (· == '\n')).reverse)

/-! ## Pipes -/

/-- The path of the program that a command names is known from then on. -/
def learn (c : Command) : Sh Unit := do
  match c with
  | .simple _ _ (w :: _) _ _ =>
    let s ← Act.read
    match (Word.plain? w).filter fun name => isName name.toList with
    | some name =>
      match targetOf s true name, commandPath? s name with
      | .program, some (path, true) =>
        if !s.knowsPath name then
          Act.update fun s => { s with hashed := (name, ⟨path, 0⟩) :: s.hashed }
      | _, _ => pure ()
    | none => pure ()
  | _ => pure ()

/-- The stage of a pipe is about to be run in a shell of its own. -/
def beforeStage (e : Engine) (c : Command) : Sh Unit := do
  match c with
  | .simple line _ _ _ _ => beforeCommand e line (c.listed false 0)
  | _ => pure ()

/-- Run commands each of which reads what the one before it has printed. -/
def pipeStages (e : Engine) (tested : Bool) : Option Nat → List Command → Sh (List Status)
  | _, [] => pure []
  | input, c :: cs => do
    let from_ (p : Process) : Process := match input with
      | some channel => p.setChannel 0 (some channel)
      | none => p
    match cs with
    | [] => do
      if (← Act.read).has "lastpipe" then
        restoring [0] do
          setStream 0 input
          e.run tested c
        pure [.exited (← Act.read).status]
      else
        beforeStage e c
        let ending ← branch e from_ (e.run tested c)
        report ending
        pure [ending]
    | _ :: _ => do
      beforeStage e c
      let output ← onMachine fun _ => newPipe []
      let ending ← branch e (fun p => (from_ p).setChannel 1 (some output)) (e.run tested c)
      report ending
      pure (ending :: (← pipeStages e tested (some output) cs))

/-- Run the stages of a pipe. -/
def pipeline (e : Engine) (tested : Bool) (stages : List Command) : Sh Unit := do
  if !(← Act.read).extended then stages.forM learn
  let numbers := (← pipeStages e tested none stages).map Status.number
  let last := (numbers.getLast?).getD 0
  let failed := (numbers.reverse.find? (· != 0)).getD 0
  Act.update fun s => { s with
    stageStatus := numbers
    status := if s.has "pipefail" then failed else last }
  checkFailure e tested

/-! ## Loops -/

/-- How a loop goes on after a part of it: nothing if it does. -/
def afterRound (r : Except Flow Unit) : Option (Except Flow Unit) :=
  match r with
  | .ok () => none
  | .error (.leave n) => some (if n ≤ 1 then .ok () else .error (.leave (n - 1)))
  | .error (.again n) => if n ≤ 1 then none else some (.error (.again (n - 1)))
  | .error flow => some (.error flow)

/-- Do something inside of a loop. -/
def inLoop {α : Type} (x : Sh α) : Sh α := do
  let loops := (← Act.read).loops
  Act.update fun s => { s with loops := loops + 1 }
  afterwards x fun s => { s with loops }

/-- The most rounds that a loop takes. -/
def roundLimit : Nat := 1000000

/-- Run a body as long as a test succeeds, or fails. `last` is the status of the body so far. At
most so many rounds are run. -/
def repeatWhile (test body : Sh Unit) (whileSuccess : Bool) : Nat → Nat → Sh Unit
  | 0, _ => Act.fail (.killed deadly)
  | n + 1, last => do
    match ← test.attempt with
    | .ok () =>
      if ((← Act.read).status == 0) != whileSuccess then setStatus last
      else
        match afterRound (← body.attempt) with
        | some r => Act.ofExcept r
        | none => repeatWhile test body whileSuccess n (← Act.read).status
    | .error .back => Act.fail .back
    | r =>
      match afterRound r with
      | some (.ok ()) => setStatus last
      | some r => Act.ofExcept r
      | none => repeatWhile test body whileSuccess n last

/-- Run a body once for every value. Something may be done before each of them. -/
def repeatEach (before : Sh Unit) (name : String) (body : Sh Unit) : List String → Sh Unit
  | [] => pure ()
  | value :: values => do
    before
    assign name value
    match afterRound (← body.attempt) with
    | some r => Act.ofExcept r
    | none => repeatEach before name body values

/-! ## Menus -/

/-- The lines of a menu: the values with their numbers, in columns as wide as the widest of them, one
below the other. -/
def menuText (values : List String) (width : Nat) : String :=
  let digits := (toString values.length).length
  let widest := (values.map String.length).foldl max 0 + digits + 2
  let columns := max 1 (width / (widest + 2))
  let rows := (values.length + columns - 1) / columns
  let columns := (values.length + rows - 1) / rows
  let rows := if rows = 1 then values.length else rows
  let columns := if rows = values.length then 1 else columns
  let number (n : Nat) : String :=
    let text := toString n
    String.ofList (List.replicate (digits - text.length) ' ') ++ text
  let cell (row column : Nat) : String :=
    let n := column * rows + row
    match values[n]? with
    | none => ""
    | some value =>
      let text := number (n + 1) ++ ") " ++ value
      if column + 1 < columns ∧ n + rows < values.length then
        text ++ String.ofList (List.replicate (widest + 2 - text.length) ' ')
      else text
  String.join ((List.range rows).map fun row =>
    String.join ((List.range columns).map (cell row)) ++ "\n")

/-- Let one of some values be chosen, again and again, until the input ends. A number chooses a value;
nothing asks for the menu again. At most so many rounds are run. -/
def offer (name : String) (values : List String) (body : Sh Unit) : Nat → Bool → Sh Unit
  | 0, _ => Act.fail (.killed deadly)
  | n + 1, showsMenu => do
    let s ← Act.read
    if showsMenu then note (menuText values 80)
    note ((s.get? "PS3").getD "#? ")
    let (line, status) ← Builtin.readLine { raw := true } Builtin.lineLimit []
    let reply := (Builtin.spread s.separators ["REPLY"] line).map (·.2) |>.head?.getD ""
    if status ≠ 0 ∧ line.isEmpty then
      print "\n"
      setStatus 1
    else if reply.isEmpty then offer name values body n true
    else
      assign "REPLY" reply
      let chosen := match reply.toNat? with
        | some (k + 1) => (values[k]?).getD ""
        | _ => ""
      assign name chosen
      match afterRound (← body.attempt) with
      | some r => Act.ofExcept r
      | none => offer name values body n ((← Act.read).get "REPLY").isEmpty

/-! ## Choices -/

/-- Whether a text fits one of some patterns, which are expanded up to the first that it fits. -/
def fitsAny (e : Engine) (subject : List Char) : List Word → Sh Bool
  | [] => pure false
  | w :: ws => do
    if fits (← patternOf e (← Act.read).globStyle w) subject then pure true else fitsAny e subject ws

/-- Run the command of the first clause with a pattern that a text fits, and the commands of others
if the clause says so. `falls` tells whether the first clause counts as one that fits, and `ran`
whether a command has run. -/
def selectFrom (e : Engine) (tested : Bool) (subject : List Char) :
    Bool → Bool → List (Clause Word Command) → Sh Unit
  | _, ran, [] => if ran then pure () else setStatus 0
  | falls, ran, ⟨ps, _, body, after⟩ :: rest => do
    if ← (if falls then pure true else fitsAny e subject ps) then
      match body with
      | .nothing => setStatus 0
      | body => e.run tested body
      match after with
      | .stop => pure ()
      | .fall => selectFrom e tested subject true true rest
      | .go => selectFrom e tested subject false true rest
    else selectFrom e tested subject false ran rest

/-! ## Tests in double brackets -/

/-- Whether a text fits an expression. The pieces that its parts matched become known. -/
def fitsExpression (e : Engine) (subject : String) (w : Word) : Sh Bool := do
  let s ← Act.read
  let chars := charsOf (← atomsOf e false (withTilde s w))
  let isSign (c : Char) : Bool := ".[]()*+?\x7b\x7d|^$\\".toList.contains c
  let text := chars.flatMap fun c => if c.2 && isSign c.1 then ['\\', c.1] else [c.1]
  let ignoresCase := s.has "nocasematch"
  match Regex.ofChars { extended := true, ignoresCase } text with
  | .error _ =>
    setStatus 2
    Act.fail .failed
  | .ok r =>
    let cs := subject.toList.toArray
    match r.findFrom cs 0 with
    | none => do
      changeValue "BASH_REMATCH" fun _ => .list []
      pure false
    | some m => do
      let pieces := (List.range (r.parts + 1)).map fun n => (n, String.ofList (m.text cs n))
      changeValue "BASH_REMATCH" fun _ => .list pieces
      pure true

/-- The parts of a test as they are shown before it is done. -/
def shownTest (negated : Bool) (parts : List String) : String :=
  let shown (p : String) : String := if p.isEmpty then "''" else p
  "[[ " ++ (if negated then "! " else "") ++ " ".intercalate (parts.map shown) ++ " ]]"

/-- A word that is compared with, as it is shown: what is quoted in it has escapes. -/
def shownPattern (e : Engine) (w : Word) : Sh String := do
  let s ← Act.read
  let chars := charsOf (← atomsOf e false (withTilde s w))
  pure (String.ofList (chars.flatMap fun c => if c.2 then ['\\', c.1] else [c.1]))

/-- Whether a test with two operands holds. -/
def compareWords (e : Engine) (negated : Bool) (left : Word) (operator : String) (right : Word) :
    Sh Bool := do
  let a ← textOf e left
  let line := (← Act.read).line
  let isPattern := ["=", "==", "!="].contains operator
  if (← Act.read).has "xtrace" then
    let b ← if isPattern then shownPattern e right else textOf e right
    announce e line (shownTest negated [a, operator, b])
  match operator with
  | "=" | "==" | "!=" => do
    let style := { (← Act.read).globStyle with groups := true }
    pure (fits (← patternOf e style right) a.toList != (operator == "!="))
  | "=~" => fitsExpression e a right
  | _ =>
    match comparison? operator with
    | some f => do pure (f (← calculate a) (← calculate (← textOf e right)))
    | none => do
      let b ← textOf e right
      pure ((binaryTest (← Builtin.facts) a operator b).toOption.getD false)

/-- Whether a test with one operand holds. -/
def questionWord (operator operand : String) : Sh Bool := do
  let operator := if operator = "-a" then "-e" else operator
  pure ((unaryTest (← Builtin.facts) operator operand).toOption.getD false)

/-- Whether a test in double brackets holds, given whether it is shown with a sign that it must not. -/
def conditionHolds (e : Engine) : Bool → Condition Word → Sh Bool
  | negated, .word w => do
    let text ← textOf e w
    announce e (← Act.read).line (shownTest negated ["-n", text])
    pure !text.isEmpty
  | negated, .unary operator operand => do
    let text ← textOf e operand
    announce e (← Act.read).line (shownTest negated [operator, text])
    questionWord operator text
  | negated, .binary left operator right => compareWords e negated left operator right
  | _, .not c => do
    let isSingle := match c with
      | .both .. | .either .. => false
      | _ => true
    pure !(← conditionHolds e isSingle c)
  | _, .both c d => do
    if ← conditionHolds e false c then conditionHolds e false d else pure false
  | _, .either c d => do
    if ← conditionHolds e false c then pure true else conditionHolds e false d

/-- The status of a test or of a calculation: failure if it does not hold. -/
def setAnswer (holds : Bool) : Sh Unit := setStatus (if holds then 0 else 1)

/-! ## All commands -/

/-- Run a command with other streams. -/
def redirected (e : Engine) (tested : Bool) (line : Nat) (redirects : List (Redirect Word))
    (body : Sh Unit) : Sh Unit := do
  Act.update fun s => { s with line }
  let consumers := (← Act.read).consumers
  tidying <| restoring (changedStreams redirects) do
    match ← divert true (← diversionsOf e redirects) with
    | some message =>
      complain message
      setStatus (if (← Act.read).extended then 1 else 2)
      recordStatus
      checkFailure e tested
    | none => body
  runConsumers e consumers

/-- Open streams for all that a shell does, or end it. -/
def redirectedApart (e : Engine) (redirects : List (Redirect Word)) : Sh Unit := do
  match ← divert false (← diversionsOf e redirects) with
  | some message => fail message
  | none => pure ()

/-- Do a test or a calculation as a command. In the language with extensions, one that makes no sense
fails, and nothing else. -/
def asCommand (e : Engine) (tested : Bool) (name : String) (x : Sh Bool) : Sh Unit := do
  match ← (naming (some name) x).attempt with
  | .ok holds => setAnswer holds
  | .error .failed => pure ()
  | .error flow => Act.fail flow
  recordStatus
  checkFailure e tested

/-- The value of an expression, which is shown before it is calculated. -/
def calculateShown (e : Engine) (line : Nat) (w : Word) : Sh Int := do
  let text ← plainText e w
  announce e line ("(( " ++ text ++ " ))")
  calculate text

/-- The value of an expression in a loop; nothing counts as a number other than zero. -/
def stepValue (e : Engine) (line : Nat) (w : Word) : Sh Int := do
  if w.isEmpty then pure 1
  else
    let text ← plainText e w
    beforeCommand e line ("((" ++ text ++ "))")
    announce e line ("(( " ++ text ++ " ))")
    naming (some "((") (calculate text)

/-- Run a loop with three calculations: at the start, as a test, and after each round. A calculation
that makes no sense ends it. -/
def countLoop (e : Engine) (line : Nat) (start test step : Word) (body : Sh Unit) : Sh Unit := do
  let whole : Sh Unit := do
    let _ ← stepValue e line start
    setStatus 0
    let check : Sh Unit := do setAnswer ((← stepValue e line test) != 0)
    let round : Sh Unit := do
      match ← body.attempt with
      | .ok () | .error (.again 0) | .error (.again 1) => pure ()
      | .error flow => Act.fail flow
      let status := (← Act.read).status
      let _ ← stepValue e line step
      setStatus status
    inLoop (repeatWhile check round true roundLimit 0)
  match ← whole.attempt with
  | .ok () | .error .failed => pure ()
  | .error flow => Act.fail flow

/-- Run a command, as part of a test or not. -/
def execute (e : Engine) (tested : Bool) (c : Command) : Sh Unit := do
  heed e
  match if (← Act.read).has "noexec" then .nothing else c with
  | .nothing => pure ()
  | .simple line assignments words _ redirects =>
    simple e tested line assignments words (c.listed false 0) redirects
  | .pipe stages => pipeline e tested stages
  | .background body => startJob e (e.run false body)
  | .sequence items => items.forM (e.run tested)
  | .group body => e.run tested body
  | .both first second =>
    e.run true first
    if (← Act.read).status = 0 then e.run tested second
  | .either first second =>
    e.run true first
    if (← Act.read).status ≠ 0 then e.run tested second
  | .not body =>
    e.run true body
    setAnswer ((← Act.read).status != 0)
  | .apart line body redirects => do
    Act.update fun s => { s with line, current := if s.occupied then s.current else c.head }
    take (← branch e id do
      redirectedApart e redirects
      e.run tested body)
    recordStatus
    Act.update fun s => { s with current := if s.occupied then s.current else c.head }
    checkFailure e tested
  | .redirected line body redirects => redirected e tested line redirects (e.run tested body)
  | .choice test yes no => do
    e.run true test
    if (← Act.read).status = 0 then e.run tested yes
    else match no with
      | .nothing => setStatus 0
      | no => e.run tested no
  | .loop whileSuccess test body =>
    inLoop (repeatWhile (e.run true test) (e.run tested body) whileSuccess roundLimit 0)
  | .each line name words spelled body => do
    Act.update fun s => { s with line }
    let values ← fieldsOfAll e words
    let before : Sh Unit := do
      beforeCommand e line c.head
      announce e line ("for " ++ name ++ " in " ++ spelled)
    if values.isEmpty then setStatus 0
    else inLoop (repeatEach before name (e.run tested body) values)
  | .menu line name words spelled body => do
    beforeCommand e line c.head
    announce e line ("select " ++ name ++ " in " ++ spelled)
    let values ← fieldsOfAll e words
    if values.isEmpty then setStatus 0
    else inLoop (offer name values (e.run tested body) roundLimit true)
  | .select line word spelled clauses => do
    beforeCommand e line c.head
    announce e line ("case " ++ spelled ++ " in")
    selectFrom e tested (← textOf e word).toList false false clauses
  | .define name body => do
    Act.update fun s => { s with
      functions := (name, body) :: s.functions.filter fun f => f.1 != name }
    setStatus 0
  | .condition line test spelled => do
    beforeCommand e line spelled
    asCommand e tested "[[" (conditionHolds e false test)
  | .calculation line expression spelled => do
    beforeCommand e line spelled
    asCommand e tested "((" do pure ((← calculateShown e line expression) != 0)
  | .count line start test step _ body => do
    Act.update fun s => { s with line }
    countLoop e line start test step (e.run tested body)
  heed e

/-! ## Nesting -/

/-- How commands that are nested at most so deep are run. -/
def engine (launch : Launch) : Nat → Engine
  | 0 =>
    { launch
      run := fun _ _ => Act.fail (.killed deadly)
      output := fun _ => pure ""
      feed := fun _ => onMachine fun _ => newPipe []
      atoms := fun _ _ => pure [] }
  | n + 1 =>
    { launch
      run := fun tested c s => execute (engine launch n) tested c s
      output := fun c s => outputOf (engine launch n) c s
      feed := fun c s => feedOf (engine launch n) c s
      atoms := fun splits w s => atomsOf (engine launch n) splits w s }

/-- How deep commands may be nested. -/
def nestingLimit : Nat := 100000

end AslBuild.Shell
