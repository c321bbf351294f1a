import AslBuild.Shell.Child
set_option autoImplicit false

/-!
# Commands that control the shell

The commands of the shell itself that run scripts or programs, or change how the script goes on.

## Main definitions

* `AslBuild.Shell.Control` — such a command.
* `AslBuild.Shell.Control.ofName?` — the one of a name.
* `AslBuild.Shell.Control.describe` — say what a name stands for.
-/

namespace AslBuild.Shell

open FileSystem Host Text

/-- A command that controls the shell: how what is nested is done, whether it is part of a test, and
the arguments give a step with a status. -/
abbrev Control : Type := Engine → Bool → List String → Sh Nat

namespace Control

/-! ## The way of a script -/

/-- The number that the arguments give, or else another one. -/
def numberOr (other : Nat) : List String → Sh Nat
  | [] => pure other
  | a :: _ => do
    match a.toNat?.filter fun _ => a.toList.all Char.isDigit with
    | some n => pure n
    | none =>
      if (← Act.read).extended then failWith 2 (a ++ ": numeric argument required")
      else fail ("Illegal number: " ++ a)

/-- Leave loops, or go on with their next round. -/
def loops (flow : Nat → Flow) : Control := fun _ _ args => do
  let n ← numberOr 1 args
  let s ← Act.read
  if n = 0 then
    if s.extended then fail "0: loop count out of range" else fail "Illegal number: 0"
  else if s.loops = 0 then
    if s.extended then
      complain "only meaningful in a \x60for', \x60while', or \x60until' loop"
    pure 0
  else
    setStatus 0
    Act.fail (flow (min n s.loops))

/-- Leave a function or a file. -/
def return_ : Control := fun _ _ args => do
  let n ← numberOr (← Act.read).status args
  let s ← Act.read
  if s.extended && s.calls.isEmpty && s.files = 0 then
    complain "can only \x60return' from a function or sourced script"
    pure 2
  else
    setStatus n
    Act.fail .back

/-- End the shell. -/
def exit : Control := fun _ _ args => do
  if 1 < args.length && (← Act.read).extended then failWith 1 "too many arguments"
  let s ← Act.read
  let n ← numberOr (s.resumed.getD s.status) args
  setStatus (n % 256)
  Act.fail .exit

/-! ## Scripts -/

/-- Run the arguments as a script. -/
def eval : Control := fun e tested args => do
  if ← deeper (runText e tested (" ".intercalate args)) then pure (← Act.read).status else pure 0

/-- Where a file is found that is to be read as part of the script. -/
def filePath? (s : State) (name : String) : Option String :=
  if name.toList.contains '/' then some name
  else
    let isFile (p : String) : Bool :=
      match s.disk.stat ⟨Raw.toText p⟩ with
      | .ok (_, .file _ mode) => mayRead mode
      | _ => false
    match (commandPaths s name).find? isFile with
    | some p => some p
    | none => if s.extended then some name else none

/-- Read a file as part of the script. -/
def file : Control := fun e tested args => do
  match args with
  | [] =>
    if (← Act.read).extended then
      complain "filename argument required"
      pure 2
    else pure 0
  | name :: rest => do
    match filePath? (← Act.read) name with
    | none => fail (name ++ ": not found")
    | some path => do
      match ← onMachine fun p => openPath p path .read with
      | .error problem =>
        if (← Act.read).extended then
          Act.update fun s => { s with command := none }
          failWith 1 (path ++ ": " ++ reasonOf problem)
        else fail (cannotOpen false false path problem)
      | .ok channel => do
        let number := 10
        let before := (← Act.read).process
        setStream number (some channel)
        let text ← onMachine fun p => readText p number
        Act.update fun s => { s with process := before }
        let s ← Act.read
        Act.update fun s => { s with
          files := s.files + 1
          command := if s.extended then none else some path
          name := if s.extended then path else s.name
          arguments := if s.extended && !rest.isEmpty then rest else s.arguments }
        let run := deeper (runText e tested (text.toOption.getD ""))
        let r ← afterwards run.attempt fun t => { t with
          files := s.files
          command := s.command
          name := s.name
          arguments := if s.extended && !rest.isEmpty then s.arguments else t.arguments }
        match r with
        | .ok any => if any then pure (← Act.read).status else pure 0
        | .error .back => pure (← Act.read).status
        | .error flow => Act.fail flow

/-! ## Programs -/

/-- Become another program. -/
def exec : Control := fun e _ args => do
  let (_, rest) ← Builtin.options "" args
  match rest with
  | [] => pure 0
  | name :: arguments => do
    match ← startProgram e true name arguments with
    | .ok (.killed signal) => Act.fail (.killed signal)
    | .ok ending => do
      Act.update fun s => { s with traps := [] }
      setStatus ending.number
      Act.fail .exit
    | .error (message, status) => do
      let isUnknown := (← Act.read).extended && message.endsWith ": command not found"
      complain (if isUnknown then name ++ ": not found" else message)
      setStatus status
      Act.fail .exit

/-- Wait for commands in the background. -/
def wait : Control := fun _ _ args => do
  runAllJobs
  let s ← Act.read
  let statusOf (a : String) : Sh Nat := do
    let job? ← if a.startsWith "%" then do pure (some (← Builtin.job a))
      else pure ((a.toNat?).bind fun n => s.jobs.find? fun j => j.number == n)
    match job? with
    | some job =>
      let ending := job.ended.getD (.exited 0)
      if !job.noticed then report ending
      Act.update fun s => { s with jobs := s.jobs.map fun j =>
        if j.number == job.number then { j with noticed := true, awaited := true } else j }
      pure ending.number
    | none =>
      if s.extended then
        if a.toNat?.isNone then
          complain ("\x60" ++ a ++ "': not a pid or valid job spec")
          pure 1
        else
          complain ("pid " ++ a ++ " is not a child of this shell")
          pure 127
      else if a.toNat?.isNone then fail ("Illegal number: " ++ a)
      else pure 127
  let (_, names) ← Builtin.options (if s.extended then "nfp:" else "") args
  if names.isEmpty then
    Act.update fun s => { s with jobs := s.jobs.map fun j =>
      { j with noticed := true, awaited := true } }
  names.foldlM (fun _ a => statusOf a) 0

/-! ## What names stand for -/

/-- The commands of a shell without extensions after which it ends if they fail. -/
def isSpecial (name : String) : Bool := Reading.specialNames.contains name

/-- What a name is said to stand for, in a word and in a sentence. -/
structure Meaning where
  /-- A word for what it is. -/
  kind : String
  /-- The text that stands for the command. -/
  brief : String
  /-- What follows the name in a sentence. -/
  full : String

/-- The meaning of a name that is a word of the language. -/
def keywordMeaning (s : State) (name : String) : List Meaning :=
  if keywords.contains name || (s.extended && extendedKeywords.contains name) then
    [⟨"keyword", name, " is a shell keyword"⟩]
  else []

/-- The meaning of a name for which a text stands. -/
def aliasMeaning (s : State) (name : String) : List Meaning :=
  match if s.extended && !s.has "expand_aliases" then none else s.aliases.lookup name with
  | some text =>
    [⟨"alias", "alias " ++ name ++ "=" ++ Builtin.quoted s.extended text,
      if s.extended then " is aliased to \x60" ++ text ++ "'" else " is an alias for " ++ text⟩]
  | none => []

/-- The meaning of the name of a function. -/
def functionMeaning (s : State) (name : String) : List Meaning :=
  match s.functions.lookup name with
  | some body =>
    [⟨"function", name, if s.extended then " is a function\n" ++ listedFunction name body
      else " is a shell function"⟩]
  | none => []

/-- The meaning of the name of a command of the shell itself. -/
def builtinMeaning (s : State) (name : String) : List Meaning :=
  if Builtin.isBuiltin s.extended name && !s.disabled.contains name then
    [⟨"builtin", name, if isSpecial name && !s.extended then " is a special shell builtin"
      else " is a shell builtin"⟩]
  else []

/-- The meanings of the name of a program: one, unless all are asked for. -/
def programMeanings (s : State) (all : Bool) (name : String) : List Meaning :=
  if name.toList.contains '/' then
    if s.disk.isProgram ⟨Raw.toText name⟩ || (!s.extended && s.disk.present ⟨Raw.toText name⟩)
    then [⟨"file", name, " is " ++ name⟩] else []
  else if all then
    let places := (commandPaths s name).filter fun p => s.disk.isProgram ⟨Raw.toText p⟩
    places.map fun path => ⟨"file", path, " is " ++ path⟩
  else match if s.extended then s.hashed.lookup name else none, commandPath? s name with
    | some known, _ => [⟨"file", known.path, " is hashed (" ++ known.path ++ ")"⟩]
    | none, some (path, true) =>
      [⟨"file", path, if s.knowsPath name then " is a tracked alias for " ++ path
        else " is " ++ path⟩]
    | none, _ => []

/-- What a name stands for, that which counts first. -/
def meanings (s : State) (all : Bool) (name : String) : List Meaning :=
  let words := if s.extended then aliasMeaning s name ++ keywordMeaning s name
    else keywordMeaning s name ++ aliasMeaning s name
  words ++ functionMeaning s name ++ builtinMeaning s name ++ programMeanings s all name

/-- Say what a name stands for. The path of a program is known from then on. -/
def describe (full : Bool) (name : String) : Sh Nat := do
  let s ← Act.read
  match (meanings s false name).head? with
  | some m =>
    if m.kind = "file" ∧ !s.extended ∧ !name.toList.contains '/' ∧ !s.knowsPath name then
      Act.update fun s => { s with hashed := (name, ⟨m.brief, 0⟩) :: s.hashed }
    print ((if full then name ++ m.full else m.brief) ++ "\n")
    pure 0
  | none =>
    if s.extended then
      if full then complain (name ++ ": not found")
      pure 1
    else
      if full then print (name ++ ": not found\n")
      pure 127

/-- Say what a name stands for, as options ask: by a word, by its path, or by a sentence. -/
def typeOf (opts : List (Char × String)) (name : String) : Sh Bool := do
  let s ← Act.read
  let all := Builtin.given 'a' opts
  let found :=
    if Builtin.given 'P' opts then programMeanings s all name
    else (meanings s all name).filter fun m => !(Builtin.given 'f' opts && m.kind == "function")
  let found := if all then found else found.take 1
  let paths := Builtin.given 'p' opts || Builtin.given 'P' opts
  let line (m : Meaning) : String :=
    if Builtin.given 't' opts then m.kind ++ "\n"
    else if !paths then name ++ m.full ++ "\n"
    else if m.kind == "file" then m.brief ++ "\n"
    else ""
  print (String.join (found.map line))
  if found.isEmpty && !paths && !Builtin.given 't' opts then complain (name ++ ": not found")
  pure !found.isEmpty

/-- Say what names stand for. -/
def type : Control := fun _ _ args => do
  if (← Act.read).extended then
    let (opts, names) ← Builtin.options "afptP" args
    let found ← names.mapM (typeOf opts)
    pure (if found.all id then 0 else 1)
  else args.foldlM (fun status name => do pure (max status (← describe true name))) 0

/-- Say what a name stands for, as an option asks. -/
def command : Control := fun _ _ args => do
  let (opts, rest) ← Builtin.options "pvV" args
  if (← Act.read).extended then
    let statuses ← rest.mapM (describe (Builtin.given 'V' opts))
    pure (if statuses.isEmpty || statuses.contains 0 then 0 else 1)
  else
    (rest.take 1).foldlM (fun status name => do
      pure (max status (← describe (Builtin.given 'V' opts) name))) 0

/-- Run a command of the shell itself, which has to be one. -/
def builtin : Control := fun _ _ args => do
  match args with
  | [] => pure 0
  | name :: _ => fail (name ++ ": not a shell builtin")

/-! ## Table -/

/-- The commands that control every shell. -/
def common : List (String × Control) :=
  [(".", file), ("break", loops .leave), ("command", command), ("continue", loops .again),
    ("eval", eval), ("exec", exec), ("exit", exit), ("return", return_), ("type", type),
    ("wait", wait)]

/-- Read lines into a list. -/
def mapfile : Control := fun e tested => Builtin.mapfile fun text => do
  let _ ← deeper (runText e tested text)

/-- The commands that control a shell with extensions. -/
def extendedOnly : List (String × Control) :=
  [("source", file), ("builtin", builtin), ("mapfile", mapfile), ("readarray", mapfile)]

/-- The command of a name. -/
def ofName? (extended : Bool) (name : String) : Option Control :=
  (common.lookup name).or (if extended then extendedOnly.lookup name else none)

end Control

end AslBuild.Shell
