import AslBuild.Shell.Control
set_option autoImplicit false

/-!
# Simple commands

The words of a simple command are expanded first, then its streams are opened, then its assignments
are made, and then it is looked for: among the commands of the shell itself, among the functions, and
in the search path.

## Main definitions

* `AslBuild.Shell.Call` — what a simple command calls.
* `AslBuild.Shell.callOf` — the call that some fields mean.
* `AslBuild.Shell.makeAssignment` — make an assignment.
* `AslBuild.Shell.simple` — run a simple command.
-/

namespace AslBuild.Shell

open FileSystem Host Text

/-! ## Showing what is run -/

/-- A value as it is shown before it is run. -/
def shownValue (extended : Bool) (text : String) : String :=
  if extended then Quoting.sparing text else text

/-- A word as it is shown before it is run. -/
def shownWord (extended : Bool) (w : String) : String :=
  if extended && w.isEmpty then "''" else shownValue extended w

/-- Show lines of what is run, as a process prints messages. The sign in front of them is repeated in
a script that is part of another one. -/
def traceLines (e : Engine) (p : Process) (lines : List String) : Sh Unit := do
  let s ← Act.read
  if s.has "xtrace" then
    Act.update fun s => { s with options := s.options.filter (· != "xtrace") }
    let lead ← afterwards (e.atoms false (Source.expandable ((s.get? "PS4").getD "+ ") s.extended))
      fun t => { t with options := s.options }
    let lead := joined lead
    let sign := if s.extended then String.ofList ((lead.toList.take 1).flatMap fun c =>
      List.replicate s.depth c) else ""
    onMachine fun _ => printTo p 2 (String.join (lines.map fun l => sign ++ lead ++ l ++ "\n"))

/-- Show a line of what is run. -/
def traceLine (e : Engine) (line : String) : Sh Unit := do
  traceLines e (← Act.read).process [line]

/-- Show a command that is run, with its assignments. -/
def trace (e : Engine) (p : Process) (assignments words : List String) : Sh Unit := do
  let extended := (← Act.read).extended
  let command := " ".intercalate (words.map (shownWord extended))
  traceLines e p (if extended then assignments ++ if words.isEmpty then [] else [command]
    else [" ".intercalate (assignments ++ words)])

/-! ## Words -/

/-- The commands after which arguments that look like assignments stay in one piece. -/
def keepsAssignments (extended : Bool) (name : String) : Bool :=
  ["export", "readonly", "local"].contains name ||
    (extended && ["declare", "typeset"].contains name)

/-- The fields of an argument that stays in one piece if it looks like an assignment. -/
def argumentFields (e : Engine) (keeps : Bool) (w : Word) : Sh (List String) := do
  let extended := (← Act.read).extended
  match if keeps then Reading.assignment? extended w else none with
  | some ⟨name, none, appends, .value v⟩ => do
    let text ← assignedText e v
    pure [name ++ (if appends then "+=" else "=") ++ text]
  | _ => fieldsOfAll e [w]

/-- The fields of some arguments. -/
def argumentsFields (e : Engine) (keeps : Bool) : List Word → Sh (List String)
  | [] => pure []
  | w :: ws => do
    let first ← argumentFields e keeps w
    pure (first ++ (← argumentsFields e keeps ws))

/-- The name of the command that decides how arguments are read, given the first field and the words
behind it. -/
def decider (first : String) (ws : List Word) : String :=
  if first = "command" ∨ first = "builtin" then
    match ws with
    | w :: _ => (w.plain?).getD first
    | [] => first
  else first

/-- The fields of the words of a command. -/
def commandFields (e : Engine) : List Word → Sh (List String)
  | [] => pure []
  | w :: ws => do
    match ← fieldsOfAll e [w] with
    | [] => commandFields e ws
    | first :: more => do
      let keeps := keepsAssignments (← Act.read).extended (decider first ws)
      pure (first :: more ++ (← argumentsFields e keeps ws))

/-! ## Assignments -/

/-- The subscript that an item of a list is given, and its value. -/
def itemKey? (w : Word) : Option (Word × Word) :=
  match Word.leading w with
  | ('[' :: cs, parts) => do
    let (key, rest) ← Reading.cutSubscript (Reading.withText cs parts)
    let (_, value) ← Reading.afterSign false rest
    pure (key, value)
  | _ => none

/-- A text as the items of a variable take it. -/
def itemText (name text : String) : Sh String := do
  match (((← Act.read).binding? name).map (·.style)).getD .plain with
  | .integer => do pure (toString (← calculate text))
  | style => pure (style.shape text)

/-- Put texts into a table, keys and values in turn. -/
def addPairs (name : String) : List String → Sh Unit
  | [] => pure ()
  | [key] => changeValue name fun old => withItem old key ""
  | key :: text :: rest => do
    let text ← itemText name text
    changeValue name fun old => withItem old key text
    addPairs name rest

/-- Put items into a list or a table, the next number being given. -/
def addItems (e : Engine) (name : String) : Nat → List Word → Sh Unit
  | _, [] => pure ()
  | next, w :: ws => do
    match itemKey? w with
    | some (key, value) => do
      let key ← plainText e key
      let value ← itemText name (← textOf e value)
      let key ← if (← Act.read).isTable name then pure key
        else do keyToSet name (toString (← calculate key))
      changeValue name fun old => withItem old key value
      addItems e name ((key.toNat?.getD next) + 1) ws
    | none => do
      let values ← (← fieldsOfAll e [w]).mapM (itemText name)
      let numbered := (List.range values.length).map fun i => (next + i, values[i]?.getD "")
      changeValue name fun old => numbered.foldl (fun old item =>
        some (withItem old (toString item.1) item.2)) old |>.getD (.list [])
      addItems e name (next + values.length) ws

/-- Make an assignment, and give it as it is shown. -/
def makeAssignment (e : Engine) (a : Assignment Word) : Sh String := do
  match a.assigned, a.subscript with
  | .value w, none => do
    let text ← assignedText e w
    let s ← Act.read
    let isNumber := ((s.binding? a.name).map (·.style)) = some .integer
    let text ← if isNumber then do
        let before ← if a.appends then calculate (s.get a.name) else pure 0
        pure (toString (before + (← calculate text)))
      else pure (if a.appends then s.get a.name ++ text else text)
    assign a.name text
    pure (a.name ++ (if a.appends then "+=" else "=") ++ shownValue (← Act.read).extended text)
  | .value w, some key => do
    let text ← assignedText e w
    let key ← plainText e key
    let s ← Act.read
    let key ← if s.isTable a.name then pure key
      else do keyToSet a.name (toString (← calculate key))
    let before := if a.appends then ((s.items a.name).lookup key).getD "" else ""
    let isNumber := ((s.binding? a.name).map (·.style)) = some .integer
    let value ← if isNumber then do
        pure (toString ((← calculate before) + (← calculate text)))
      else itemText a.name (before ++ text)
    changeValue a.name fun old => withItem old key value
    pure (a.name ++ "[" ++ key ++ "]" ++ (if a.appends then "+=" else "=") ++ shownValue (← Act.read).extended text)
  | .items ws spelled, _ => do
    if !a.appends then
      changeValue a.name fun old => match old with
        | some (.table _) => .table []
        | _ => .list []
    else
      changeValue a.name fun old => match old with
        | some (.text t) => .list [(0, t)]
        | some v => v
        | none => .list []
    let s ← Act.read
    match s.isTable a.name, ws with
    | true, w :: _ =>
      if (itemKey? w).isSome then addItems e a.name 0 ws
      else addPairs a.name (← fieldsOfAll e ws)
    | _, _ => addItems e a.name (if a.appends then s.nextItem a.name else 0) ws
    pure (a.name ++ (if a.appends then "+=(" else "=(") ++ spelled ++ ")")

/-- Make the assignments of a declaration that was made. A variable that it has locked is set all the
same. -/
def makeDeclared (e : Engine) (wasLocked : String → Bool) : List (Assignment Word) → Sh Unit
  | [] => pure ()
  | a :: rest => do
    let s ← Act.read
    match s.binding? a.name with
    | some v =>
      if v.locked && !wasLocked a.name then
        Act.update fun s => s.put a.name (some { v with locked := false })
        let _ ← makeAssignment e a
        Act.update fun s => s.put a.name ((s.binding? a.name).map fun v => { v with locked := true })
      else do let _ ← makeAssignment e a
    | none => do let _ ← makeAssignment e a
    makeDeclared e wasLocked rest

/-- Make assignments, one after the other, and give them as they are shown. With `aside`, the
variables are exported, and what they were before is kept. -/
def makeAssignments (e : Engine) (aside : Bool) : List (Assignment Word) → Sh (List String)
  | [] => pure []
  | a :: rest => do
    if aside then saveOutside a.name
    let shown ← makeAssignment e a
    if aside then markExported a.name true
    pure (shown :: (← makeAssignments e aside rest))

/-- Do a step, and let the variables that were set aside in it be afterwards what they were. -/
def settingAside {α : Type} (x : Sh α) : Sh α := do
  Act.update fun s => { s with scopes := [] :: s.scopes }
  afterwards x fun s =>
    match s.scopes with
    | scope :: scopes => scope.foldl (fun s v => s.putAs v.1 v.2) { s with scopes }
    | [] => s

/-! ## Calls -/

/-- What a simple command calls. -/
inductive Target
  /-- Nothing. -/
  | nothing
  /-- A command of the shell itself. -/
  | plain (run : Builtin)
  /-- A command that controls the shell. -/
  | control (run : Control)
  /-- A function. -/
  | function (body : Command)
  /-- A program. -/
  | program

/-- A call. -/
structure Call where
  /-- What is called. -/
  target : Target
  /-- The name. -/
  name : String
  /-- The arguments. -/
  arguments : List String
  /-- Whether an error ends the shell, and assignments stay. -/
  special : Bool

/-- The target of a name, where functions count or not. -/
def targetOf (s : State) (functions : Bool) (name : String) : Target :=
  let own : Target :=
    if s.disabled.contains name then .program
    else match Control.ofName? s.extended name, Builtin.plain? s.extended name with
      | some run, _ => .control run
      | none, some run => .plain run
      | none, none => .program
  if !s.extended && Control.isSpecial name then own
  else match if functions then s.functions.lookup name else none with
    | some body => .function body
    | none => own

/-- The call that some fields mean behind `command`: the program or the command of the shell itself,
unless it is asked for what they mean. At most so many fields are looked at. -/
def plainCallOf (s : State) : Nat → List String → Option Call
  | 0, _ => none
  | n + 1, fields =>
    match fields with
    | "-p" :: rest => plainCallOf s n rest
    | "--" :: name :: rest => some ⟨targetOf s false name, name, rest, false⟩
    | "command" :: rest =>
      match plainCallOf s n rest with
      | some call => some call
      | none => some ⟨.control Control.command, "command", rest, false⟩
    | name :: rest =>
      if name.startsWith "-" then none else some ⟨targetOf s false name, name, rest, false⟩
    | [] => none

/-- The call that some fields mean behind `builtin`: the command of the shell itself, if it is one. -/
def ownCallOf (s : State) (fields : List String) : Option Call :=
  match if fields.head? == some "--" then fields.tail else fields with
  | "command" :: rest => plainCallOf s (rest.length + 1) rest
  | name :: rest =>
    match targetOf s false name with
    | .program => none
    | target => some ⟨target, name, rest, false⟩
  | [] => none

/-- The call that some fields mean. -/
def callOf (s : State) (fields : List String) : Call :=
  match fields with
  | [] => ⟨.nothing, "", [], false⟩
  | name :: rest =>
    let isFunction := (s.functions.lookup name).isSome
    let inner :=
      if isFunction || s.disabled.contains name then none
      else if name == "command" then plainCallOf s (rest.length + 1) rest
      else if s.extended && name == "builtin" then ownCallOf s rest
      else none
    match inner with
    | some call => call
    | none => ⟨targetOf s true name, name, rest, !s.extended && Control.isSpecial name⟩

/-! ## Running -/

/-- How deep functions may call each other. -/
def callLimit : Nat := 1000

/-- Run the body of a function. -/
def callFunction (e : Engine) (tested : Bool) (name : String) (arguments : List String)
    (body : Command) : Sh Unit := do
  let s ← Act.read
  if callLimit ≤ s.calls.length then
    fail ("Maximum function recursion depth (" ++ toString callLimit ++ ") reached")
  else
    Act.update fun s => { s with
      arguments
      loops := 0
      calls := ⟨name, s.line⟩ :: s.calls
      optionIndex := if s.extended then s.optionIndex else 1
      optionPlace := if s.extended then s.optionPlace else 0 }
    let whole : Sh Unit := do
      match ← (e.run tested body).attempt with
      | .ok () | .error .back => if s.extended then runTrap e (occasion "RETURN")
      | r => Act.ofExcept r
    let whole := if s.extended then hidingTraps whole else whole
    afterwards whole fun t => { t with
      arguments := s.arguments
      loops := s.loops
      calls := s.calls
      optionIndex := if s.extended then t.optionIndex else s.optionIndex
      optionPlace := if s.extended then t.optionPlace else s.optionPlace }

/-- Notice that output did not get through. -/
def checkOutput (name : String) : Sh Unit := do
  let s ← Act.read
  match s.machine.refused with
  | none => pure ()
  | some errno => do
    Act.update fun s => { s with machine := { s.machine with refused := none } }
    if errno = .brokenPipe ∧ !s.process.deaf.contains 13 then Act.fail (.killed 13)
    else
      if s.extended then complain ("write error: " ++ errno.description)
      else complain (name ++ ": I/O error")
      setStatus 1

/-- Run a command of the shell itself. An error in it does not end the shell unless it is a special
one. -/
def callOwn (name : String) (special : Bool) (run : Sh Nat) : Sh Unit := do
  Act.update fun s => { s with machine := { s.machine with refused := none } }
  let whole : Sh Unit := do
    setStatusOf (← run)
    checkOutput name
  match ← (naming (some name) whole).attempt with
  | .ok () => pure ()
  | .error flow =>
    if flow = .failed ∧ !special then pure ()
    else Act.fail flow
where
  /-- Set the status. -/
  setStatusOf (n : Nat) : Sh Unit := setStatus n

/-- Run a call. -/
def runCall (e : Engine) (tested : Bool) (call : Call) : Sh Unit := do
  match call.target with
  | .nothing => setStatus (← Act.read).substituted
  | .plain run => callOwn call.name call.special (run call.arguments)
  | .control run => callOwn call.name call.special (run e tested call.arguments)
  | .function body => callFunction e tested call.name call.arguments body
  | .program => do
    match ← startProgram e false call.name call.arguments with
    | .ok ending => take ending
    | .error (message, status) => do
      complain message
      setStatus status

/-- The status of a command is that of the last pipe. -/
def recordStatus : Sh Unit := Act.update fun s => { s with stageStatus := [s.status] }

/-- After a failure, do what is to be done, and end the shell if an option asks for it. -/
def checkFailure (e : Engine) (tested : Bool) : Sh Unit := do
  let s ← Act.read
  if !tested && s.status != 0 then
    runTrap e (occasion "ERR")
    if s.has "errexit" then Act.fail .exit

/-- Whether the streams of a call stay as it leaves them. -/
def keepsStreams (call : Call) : Bool := call.name == "exec" &&
  match call.target with
  | .control _ => true
  | _ => false

/-- Open the streams of a command, make its assignments, and run it. -/
def carryOut (e : Engine) (tested : Bool) (assignments : List (Assignment Word))
    (fields : List String) (redirects : List (Redirect Word)) (call : Call) : Sh Unit := do
  let outer := (← Act.read).process
  let diversions ← diversionsOf e redirects
  match ← divert (!keepsStreams call) diversions with
  | some message => do
    complain message
    setStatus (if (← Act.read).extended then 1 else 2)
    if call.special then Act.fail .failed
  | none => do
    let extended := (← Act.read).extended
    let declares := keepsAssignments extended call.name && !assignments.isEmpty && extended
    let aside := match call.target with
      | .nothing => false
      | _ => !call.special
    if declares then
      trace e outer [] fields
      let before ← Act.read
      let wasLocked (name : String) : Bool := ((before.binding? name).map (·.locked)).getD false
      runCall e tested call
      if (← Act.read).status = 0 then makeDeclared e wasLocked assignments
    else
      let shown ← makeAssignments e aside assignments
      trace e outer shown fields
      runCall e tested call

/-- The last word of a command becomes known. -/
def recordLast (fields : List String) : Sh Unit := do
  if (← Act.read).extended then
    Act.update fun s => s.put "_" (some { value := some (.text (fields.getLast?.getD "")) })

/-- Run a simple command, which is listed in a way. -/
def simple (e : Engine) (tested : Bool) (line : Nat) (assignments : List (Assignment Word))
    (words : List Word) (spelled : String) (redirects : List (Redirect Word)) : Sh Unit := do
  beforeCommand e line spelled
  Act.update fun s => { s with substituted := 0 }
  let consumers := (← Act.read).consumers
  let fields ← commandFields e words
  let call := callOf (← Act.read) fields
  let whole := carryOut e tested assignments fields redirects call
  let declares := (← Act.read).extended && keepsAssignments true call.name
  let whole := match call.target with
    | .nothing => whole
    | .function _ => settingAside whole
    | _ =>
      if call.special || assignments.isEmpty || declares then whole else settingAside whole
  if keepsStreams call then whole
  else tidying (restoring (changedStreams redirects) whole)
  runConsumers e consumers
  recordLast fields
  recordStatus
  checkFailure e tested

end AslBuild.Shell
