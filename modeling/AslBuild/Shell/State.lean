import AslBuild.Host.Channel
import AslBuild.Shell.Pattern
import AslBuild.Shell.Source
import AslBuild.Shell.Variable
set_option autoImplicit false

/-!
# The state of a shell

## Main definitions

* `AslBuild.Shell.State` — what a shell has for itself, together with the machine that it runs on.
* `AslBuild.Shell.Flow` — how a script goes on, if not with what comes next.
* `AslBuild.Shell.Sh` — a step of a shell.
* `AslBuild.Shell.print`, `AslBuild.Shell.complain`, `AslBuild.Shell.fail` — say something.
* `AslBuild.Shell.assign` — set a variable.
* `AslBuild.Shell.commandPath?` — where a command is found.
-/

namespace AslBuild.Shell

open FileSystem Host Text

/-! ## The state -/

/-- A command in the background. It is run when it is waited for, or at the end of the shell. -/
structure Job where
  /-- Its own number. -/
  slot : Nat
  /-- The number of its process. -/
  number : Nat
  /-- What it does. -/
  run : Run Status
  /-- How it ended. -/
  ended : Option Status := none
  /-- Whether the shell has noticed its end. -/
  noticed : Bool := false
  /-- Whether it has been waited for. -/
  awaited : Bool := false

/-- A command whose path is known. -/
structure Known where
  /-- The path. -/
  path : String
  /-- How often it was used. -/
  uses : Nat

/-- A function that is run. -/
structure Invocation where
  /-- Its name. -/
  name : String
  /-- The line on which it was called. -/
  line : Nat

/-- What a shell has for itself, together with the machine that it runs on. -/
structure State where
  /-- The machine. -/
  machine : Machine
  /-- The process. -/
  process : Process
  /-- The name that the shell goes by. -/
  name : String
  /-- Whether it knows the language with extensions. -/
  extended : Bool := false
  /-- The arguments. -/
  arguments : List String := []
  /-- The variables. -/
  bindings : List (String × Variable) := []
  /-- The functions. -/
  functions : List (String × Command) := []
  /-- The texts that stand for words. -/
  aliases : List (String × String) := []
  /-- The documents, by number. -/
  documents : List (Nat × Word) := []
  /-- The number of the next document. -/
  nextDocument : Nat := 0
  /-- The options that are set. -/
  options : List String := []
  /-- The status of the last command. -/
  status : Nat := 0
  /-- The status of the last command in a word. -/
  substituted : Nat := 0
  /-- The number of the first shell of this script. -/
  own : Nat
  /-- The number of the last command in the background. -/
  lastJob : Option Nat := none
  /-- The commands in the background. -/
  jobs : List Job := []
  /-- The line that messages name. -/
  line : Nat := 0
  /-- The command that messages name. -/
  command : Option String := none
  /-- What is done when a signal is noticed, or, for the number 0, at the end. -/
  traps : List (Nat × String) := []
  /-- The same of the shell around, as long as nothing was said here. -/
  outerTraps : List (Nat × String) := []
  /-- The variables that functions have for themselves, with what they were outside. -/
  scopes : List (List (String × Option Variable)) := []
  /-- How many loops are around. -/
  loops : Nat := 0
  /-- The functions that are around, the innermost first. -/
  calls : List Invocation := []
  /-- How many files are around that are read as if they stood here. -/
  files : Nat := 0
  /-- The number of the argument at which the next option is read, and the place in it. -/
  optionIndex : Nat := 1
  optionPlace : Nat := 0
  /-- The line up to which the script was read. -/
  reached : Nat := 1
  /-- The commands whose paths are known. -/
  hashed : List (String × Known) := []
  /-- The status of the stages of the last pipe. -/
  stageStatus : List Nat := []
  /-- Inside of what is done about a signal or at the end: the status that there was before. -/
  resumed : Option Nat := none
  /-- How many texts are around that are run as scripts of their own. -/
  depth : Nat := 0
  /-- How many shells are around that have shells of their own. -/
  shells : Nat := 0
  /-- What the next random number comes from. -/
  seed : Nat := 0
  /-- The command that is run, as it is listed. -/
  current : String := ""
  /-- Whether what is run is done on an occasion. -/
  occupied : Bool := false
  /-- The commands that read what was written to a channel, each with the channel. -/
  consumers : List (Nat × Command) := []
  /-- The directories that were put aside, the last one first. -/
  stack : List String := []
  /-- The commands of the shell itself that are not to be found. -/
  disabled : List String := []

/-- How a script goes on, if not with what comes next. -/
inductive Flow
  /-- Behind some loops. -/
  | leave (loops : Nat)
  /-- With the next round of a loop. -/
  | again (loops : Nat)
  /-- Behind the call of a function, or the reading of a file. -/
  | back
  /-- Not at all: the shell ends. -/
  | exit
  /-- Not at all, because of an error. -/
  | failed
  /-- Not at all: a signal ends the shell. -/
  | killed (signal : Nat)
deriving DecidableEq

/-- A step of a shell. -/
abbrev Sh (α : Type) : Type := Act Flow State α

/-! ## Machine and process -/

/-- A step of the process on the machine. -/
def onMachine {α : Type} (x : Process → Run α) : Sh α := fun s =>
  let (a, machine) := (x s.process).run s.machine
  (.ok a, { s with machine })

/-- Change the process. -/
def changeProcess (f : Process → Process) : Sh Unit :=
  Act.update fun s => { s with process := f s.process }

/-- The files as the shell sees them. -/
def State.disk (s : State) : Disk := s.machine.disk s.process

/-! ## Saying something -/

/-- Print to standard output. -/
def print (text : String) : Sh Unit := onMachine fun p => printTo p 1 text

/-- What a message starts with. -/
def State.lead (s : State) : String :=
  let line := if s.extended then "line " ++ toString s.line else toString s.line
  let command := match s.command with
    | some c => c ++ ": "
    | none => ""
  s.name ++ ": " ++ line ++ ": " ++ command

/-- Print an error message, and go on. -/
def complain (message : String) : Sh Unit := fun s =>
  (onMachine fun p => printTo p 2 (s.lead ++ message ++ "\n")) s

/-- Set the status. -/
def setStatus (n : Nat) : Sh Unit := Act.update fun s => { s with status := n }

/-- End what the shell does because of an error, with a status. -/
def failWith {α : Type} (n : Nat) (message : String) : Sh α := do
  complain message
  setStatus n
  Act.fail .failed

/-- End what the shell does because of an error. -/
def fail {α : Type} (message : String) : Sh α := do
  failWith (if (← Act.read).extended then 1 else 2) message

/-- End what the shell does because of an error; in the language with extensions, with a status and
whatever comes next. -/
def failFor {α : Type} (n : Nat) (message : String) : Sh α := do
  if (← Act.read).extended then
    complain message
    setStatus n
    Act.fail .exit
  else fail message

/-! ## Parameters -/

/-- The names of the options that have letters, in the order in which they are listed. -/
def optionNames : List (Char × String) :=
  [('e', "errexit"), ('f', "noglob"), ('I', "ignoreeof"), ('i', "interactive"), ('m', "monitor"),
    ('n', "noexec"), ('s', "stdin"), ('x', "xtrace"), ('v', "verbose"), ('V', "vi"),
    ('E', "emacs"), ('C', "noclobber"), ('a', "allexport"), ('b', "notify"), ('u', "nounset"),
    ('p', "privileged")]

/-- The same of the language with extensions. -/
def extendedOptionNames : List (Char × String) :=
  [('a', "allexport"), ('b', "notify"), ('e', "errexit"), ('f', "noglob"), ('h', "hashall"),
    ('i', "interactive"), ('k', "keyword"), ('m', "monitor"), ('n', "noexec"), ('p', "privileged"),
    ('t', "onecmd"), ('u', "nounset"), ('v', "verbose"), ('x', "xtrace"), ('B', "braceexpand"),
    ('C', "noclobber"), ('E', "errtrace"), ('H', "histexpand"), ('P', "physical"),
    ('T', "functrace")]

/-- The options that only have names. -/
def longOptions (extended : Bool) : List String :=
  if extended then ["emacs", "history", "ignoreeof", "interactive-comments", "nolog", "pipefail",
    "posix", "vi"]
  else ["nolog", "debug"]

/-- The options of the language with extensions that are set by a command of their own. -/
def shellOptions : List String :=
  ["autocd", "assoc_expand_once", "cdable_vars", "cdspell", "checkhash", "checkjobs",
    "checkwinsize", "cmdhist", "compat31", "compat32", "compat40", "compat41", "compat42",
    "compat43", "compat44", "complete_fullquote", "direxpand", "dirspell", "dotglob", "execfail",
    "expand_aliases", "extdebug", "extglob", "extquote", "failglob", "force_fignore",
    "globasciiranges", "globskipdots", "globstar", "gnu_errfmt", "histappend", "histreedit",
    "histverify", "hostcomplete", "huponexit", "inherit_errexit", "interactive_comments",
    "lastpipe", "lithist", "localvar_inherit", "localvar_unset", "login_shell", "mailwarn",
    "no_empty_cmd_completion", "nocaseglob", "nocasematch", "noexpand_translation", "nullglob",
    "patsub_replacement", "progcomp", "progcomp_alias", "promptvars", "restricted_shell",
    "shift_verbose", "sourcepath", "varredir_close", "xpg_echo"]

/-- Those of them that are set if nobody asks. -/
def usualShellOptions : List String :=
  ["checkwinsize", "cmdhist", "complete_fullquote", "extquote", "force_fignore",
    "globasciiranges", "globskipdots", "hostcomplete", "interactive_comments",
    "patsub_replacement", "progcomp", "promptvars", "sourcepath"]

namespace State

/-- Whether an option is set. -/
def has (s : State) (option : String) : Bool := s.options.contains option

/-- How patterns are spelled, but for those that names of files have to fit. -/
def globStyle (s : State) : GlobStyle :=
  { extended := s.extended, groups := s.has "extglob", folds := s.has "nocasematch" }

/-- The options that have letters. -/
def lettered (s : State) : List (Char × String) :=
  if s.extended then extendedOptionNames else optionNames

/-- The letters of the options that are set. -/
def flags (s : State) : String :=
  let letters := (s.lettered.filter fun o => s.options.contains o.2).map (·.1)
  String.ofList (if s.extended then letters else letters.reverse)

/-- The names of all options, in their order. -/
def optionList (s : State) : List String :=
  let names := s.lettered.map (·.2) ++ longOptions s.extended
  if s.extended then (names.filter (· != "interactive")).mergeSort fun a b => a ≤ b else names

/-- The variable of a name, which may be one that stands for another. -/
def bindingAs? (s : State) (name : String) : Option Variable := s.bindings.lookup name

/-- The name of the variable that a name means. At most so many others are gone through. -/
def meantUpTo (s : State) : Nat → String → String
  | 0, name => name
  | n + 1, name =>
    match s.bindingAs? name with
    | some v =>
      match v.refers, v.value with
      | true, some (.text other) => meantUpTo s n other
      | _, _ => name
    | none => name

/-- The name of the variable that a name means. -/
def meant (s : State) (name : String) : String := s.meantUpTo 8 name

/-- The variable that a name means. -/
def binding? (s : State) (name : String) : Option Variable := s.bindingAs? (s.meant name)

/-- The items of the lists that the language with extensions keeps itself. -/
def ownItems? (s : State) (name : String) : Option (List String) :=
  if !s.extended then none
  else match name with
    | "PIPESTATUS" => some (s.stageStatus.map toString)
    | "FUNCNAME" => some (if s.calls.isEmpty then [] else s.calls.map (·.name) ++ ["main"])
    | "BASH_LINENO" => some (s.calls.map (toString ·.line) ++ ["0"])
    | "BASH_SOURCE" => some ((s.calls.map fun _ => s.name) ++ [s.name])
    | "DIRSTACK" => some ((((s.bindingAs? "PWD").bind (·.value)).bind Value.text?).getD "" :: s.stack)
    | "BASH_VERSINFO" => some ["5", "2", "21", "1", "release", "x86_64-pc-linux-gnu"]
    | _ => none

/-- The texts that the language with extensions keeps itself. -/
def ownText? (s : State) (name : String) : Option String :=
  if !s.extended then none
  else match name with
    | "LINENO" => some (toString s.line)
    | "BASHPID" => some (toString s.process.number)
    | "BASH_SUBSHELL" => some (toString s.shells)
    | "BASH_ARGV0" => some s.name
    | "BASH_COMMAND" => some s.current
    | "SHELLOPTS" => some (":".intercalate (s.optionList.filter s.has))
    | "BASHOPTS" => some (":".intercalate (shellOptions.filter s.has))
    | _ => none

/-- The names of all variables that the language with extensions keeps itself. -/
def ownNames : List String :=
  ["BASHOPTS", "BASHPID", "BASH_ARGV0", "BASH_COMMAND", "BASH_LINENO", "BASH_SOURCE",
    "BASH_SUBSHELL", "BASH_VERSINFO", "DIRSTACK", "FUNCNAME", "LINENO", "PIPESTATUS", "SHELLOPTS"]

/-- The value of a variable. -/
def get? (s : State) (name : String) : Option String :=
  ((s.binding? name).bind (·.value)).bind Value.text?

/-- The value of a variable, or an empty text. -/
def get (s : State) (name : String) : String := (s.get? name).getD ""

/-- The items of a variable, each with its subscript. -/
def items (s : State) (name : String) : List (String × String) :=
  match s.ownItems? name, (s.binding? name).bind (·.value) with
  | some items, _ => items.zipIdx.map fun (text, n) => (toString n, text)
  | none, some (.text t) => [("0", t)]
  | none, some (.list items) => items.map fun i => (toString i.1, i.2)
  | none, some (.table items) => Value.inTableOrder items
  | none, none => (s.ownText? name).toList.map fun text => ("0", text)

/-- Whether a variable is a table. -/
def isTable (s : State) (name : String) : Bool :=
  match (s.binding? name).bind (·.value) with
  | some (.table _) => true
  | _ => false

/-- The number behind the last item of a variable. -/
def nextItem (s : State) (name : String) : Nat :=
  match (s.items name).getLast? with
  | some item => (item.1.toNat?.getD 0) + 1
  | none => 0

/-- The key of an item of a variable, given its subscript: a text for a table, and otherwise a number,
which counts from the end if it is negative. -/
def keyOf? (s : State) (name subscript : String) : Option String :=
  match if s.isTable name then none else subscript.toInt? with
  | none => some subscript
  | some n =>
    let n := if n < 0 then n + s.nextItem name else n
    if n < 0 then none else some (toString n)

/-- Whether a variable, or an item of it, is set. -/
def isSet (s : State) (text : String) : Bool :=
  let name := text.toList.takeWhile (· != '[')
  match text.toList.drop name.length with
  | '[' :: rest =>
    let key := String.ofList (rest.takeWhile (· != ']'))
    let items := s.items (String.ofList name)
    (items.lookup key).isSome || ((key == "@" || key == "*") && !items.isEmpty)
  | _ => ((s.items text).lookup "0").isSome

/-- Whether the path of a command is known. -/
def knowsPath (s : State) (name : String) : Bool := s.hashed.any (·.1 == name)

/-- The characters that separate words. -/
def separators (s : State) : List Char := ((s.get? "IFS").getD " \t\n").toList

/-- The value of a parameter that is not a list, if it is set. -/
def parameter? (s : State) (name : String) : Option String :=
  match name with
  | "#" => some (toString s.arguments.length)
  | "?" => some (toString s.status)
  | "$" => some (toString s.own)
  | "!" => s.lastJob.map toString
  | "-" => some s.flags
  | "0" => some s.name
  | _ =>
    if name.toList.all Char.isDigit then
      match name.toNat? with
      | some (n + 1) => s.arguments[n]?
      | some 0 => some s.name
      | none => none
    else match s.ownItems? name, s.ownText? name with
      | some items, _ => items.head?
      | none, some text => some text
      | none, none => s.get? name

/-- The directories in which commands are looked up if no variable says so. -/
def defaultPath : String := "/usr/local/sbin:/usr/local/bin:/usr/sbin:/usr/bin:/sbin:/bin"

/-- Put a variable in the place of the one with its name, which may stand for another. -/
def putAs (s : State) (name : String) (v : Option Variable) : State :=
  let others := s.bindings.filter fun x => x.1 != name
  { s with bindings := match v with
      | some v => (name, v) :: others
      | none => others }

/-- Put a variable in the place of the one that a name means. -/
def put (s : State) (name : String) (v : Option Variable) : State := s.putAs (s.meant name) v

/-- The variables that commands are started with. -/
def exports (s : State) : List (String × String) :=
  s.bindings.reverse.filterMap fun (name, v) =>
    if v.exported then
      match v.value with
      | some (.text t) => some (name, t)
      | _ => none
    else none

end State

/-! ## Steps with a changed state -/

/-- Do a step, and change the state afterwards, however the step ends. -/
def afterwards {α : Type} (x : Sh α) (f : State → State) : Sh α := fun s =>
  let (r, s) := x s
  (r, f s)

/-- Do a step with a name for messages. -/
def naming {α : Type} (command : Option String) (x : Sh α) : Sh α := do
  let outer := (← Act.read).command
  Act.update fun s => { s with command }
  afterwards x fun s => { s with command := outer }

/-! ## Setting variables -/

/-- Change the value of a variable, unless it must not be set. -/
def changeValue (name : String) (f : Option Value → Value) : Sh Unit := do
  let s ← Act.read
  let old := (s.binding? name).getD { value := none }
  if old.locked then
    if s.extended then naming none (fail (name ++ ": readonly variable"))
    else fail (name ++ ": is read only")
  else
    let exported := old.exported || s.has "allexport"
    let value := f old.value
    let index := max 1 (((Value.text? value).bind String.toNat?).getD 1)
    Act.update fun s =>
      { s.put name (some { old with value := some value, exported, bare := false }) with
        seed := if name = "RANDOM" then (((Value.text? value).bind String.toNat?).getD 0) else s.seed
        optionIndex := if name = "OPTIND" then index else s.optionIndex
        optionPlace := if name = "OPTIND" then 0 else s.optionPlace
        hashed := if name = "PATH" then [] else s.hashed }

/-- Set a variable to a text. A list keeps its other items. -/
def assign (name value : String) : Sh Unit := do
  let style := (((← Act.read).binding? name).map (·.style)).getD .plain
  let value := style.shape value
  changeValue name fun old =>
    match old with
    | some (.list items) => .list (setItem items 0 value)
    | some (.table items) => .table (setEntry items "0" value)
    | _ => .text value

/-- Let commands be started with a variable. -/
def markExported (name : String) (exported : Bool) : Sh Unit := Act.update fun s =>
  s.put name (some { (s.binding? name).getD { value := none } with exported })

/-- Remove a variable, unless it must not be set. -/
def unsetVariable (name : String) : Sh Unit := do
  let s ← Act.read
  match s.binding? name with
  | none => pure ()
  | some v =>
    if v.locked then
      fail (name ++ (if s.extended then ": cannot unset: readonly variable" else ": is read only"))
    else Act.update fun s => s.put name none

/-- Remember what a variable is outside of the function that is called. -/
def saveOutside (name : String) : Sh Unit := Act.update fun s =>
  match s.scopes with
  | scope :: scopes =>
    if scope.any (·.1 == name) then s
    else { s with scopes := ((name, s.bindingAs? name) :: scope) :: scopes }
  | [] => s

/-! ## Items -/

/-- The key of an item of a variable that is set. -/
def keyToSet (name subscript : String) : Sh String := do
  match (← Act.read).keyOf? name subscript with
  | some key => pure key
  | none => fail (name ++ "[" ++ subscript ++ "]: bad array subscript")

/-- The value of an item of a variable, if it is set. -/
def item? (name subscript : String) : Sh (Option String) := do
  let s ← Act.read
  match s.keyOf? name subscript with
  | some key => pure ((s.items name).lookup key)
  | none => do
    complain (name ++ ": bad array subscript")
    pure none

/-! ## Random numbers -/

/-- The number that follows another one in a sequence that looks like one of random numbers. -/
def afterSeed (seed : Nat) : Nat := (if seed = 0 then 123459876 else seed) * 16807 % 2147483647

/-- Draw a random number, if the value of a variable is one. -/
def draw (name : String) : Sh Unit := do
  let s ← Act.read
  match s.extended && name == "RANDOM", s.bindingAs? name with
  | true, some v =>
    let seed := afterSeed s.seed
    let drawn := ((seed >>> 16) ^^^ (seed % 65536)) % 32768
    Act.update fun s =>
      { s.putAs name (some { v with value := some (.text (toString drawn)) }) with seed }
  | _, _ => pure ()

/-! ## Signals that are sent -/

/-- Notice the signals that were sent to the process. -/
def noticed : Sh (List Nat) := fun s =>
  let mine := s.machine.signals.filter fun x => x.1 == s.process.number
  if mine.isEmpty then (.ok [], s)
  else
    (.ok (mine.map (·.2)), { s with machine := { s.machine with
      signals := s.machine.signals.filter fun x => x.1 != s.process.number } })

/-! ## Where commands are found -/

/-- The paths at which a command of a name is looked for. -/
def commandPaths (s : State) (name : String) : List String :=
  ((s.get "PATH").splitOn ":").map fun dir =>
    if dir.isEmpty then name
    else if s.extended && dir == "~" then s.get "HOME" ++ "/" ++ name
    else dir ++ "/" ++ name

/-- The path of a command that is given by a name: the first entry of the search path at which
there is a file that may be executed. If there is only something that may not, its path is given,
and that it may not. -/
def commandPath? (s : State) (name : String) : Option (String × Bool) :=
  if name.isEmpty && s.extended then none
  else
    let places := commandPaths s name
    match places.find? fun p => s.disk.isProgram ⟨Raw.toText p⟩ with
    | some p => some (p, true)
    | none => (places.find? fun p => s.disk.present ⟨Raw.toText p⟩).map fun p => (p, false)

end AslBuild.Shell
