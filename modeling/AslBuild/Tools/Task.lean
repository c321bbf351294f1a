import AslBuild.Host.Channel
import AslBuild.Host.Signal
set_option autoImplicit false

/-!
# Tools

The tools that come with a host work on files and texts. A tool reads and prints, complains in its
own name about what goes wrong, and goes on with what it can still do.

## Main definitions

* `AslBuild.Tools.Task` — a step of a tool.
* `AslBuild.Tools.Tool` — a tool: what a process that runs it does.
* `AslBuild.Tools.say`, `AslBuild.Tools.warn`, `AslBuild.Tools.misuse` — print, and complain.
* `AslBuild.Tools.textOf` — what can be read at a path.
* `AslBuild.Tools.quoted`, `AslBuild.Tools.quotedIfOdd` — names in messages.
-/

namespace AslBuild.Tools

open FileSystem Host Text

/-- What a process does that runs a tool; it may start other processes. -/
abbrev Tool : Type := Launch → Start → Run Status

/-! ## Steps -/

/-- What a tool works with. -/
structure Desk where
  /-- The machine. -/
  machine : Machine
  /-- The process. -/
  process : Process
  /-- The name that the tool goes by. -/
  name : String
  /-- The status that it will end with. -/
  status : Nat := 0

/-- A step of a tool. A failure is the end of the tool. -/
abbrev Task (α : Type) : Type := Act Status Desk α

/-- A tool that does a task with its arguments. -/
def Tool.ofTask (task : List String → Task Unit) : Tool := fun _ start m =>
  let desk : Desk := { machine := m, process := start.process, name := start.name }
  match Act.run (task start.arguments) desk with
  | (.ok (), desk) => (.exited desk.status, desk.machine)
  | (.error ending, desk) => (ending, desk.machine)

/-- A step of the process on the machine. -/
def onMachine {α : Type} (x : Process → Run α) : Task α := fun d =>
  let (a, machine) := (x d.process).run d.machine
  (.ok a, { d with machine })

/-- A step over the files. -/
def onFiles {α : Type} (x : Disk.Step α) : Task (Except IoError α) := onMachine fun p => onDisk p x

/-- The files. -/
def files : Task Disk := do
  let d ← Act.read
  pure (d.machine.disk d.process)

/-- End with a status. -/
def quit {α : Type} (n : Nat) : Task α := Act.fail (.exited n)

/-- Let the tool end with a status of at least a number. -/
def mark (n : Nat) : Task Unit := Act.update fun d => { d with status := max d.status n }

/-! ## Messages -/

/-- Print to the stream for messages. -/
def tell (text : String) : Task Unit := onMachine fun p => printTo p 2 text

/-- Complain in the name of the tool. -/
def remark (message : String) : Task Unit := do tell ((← Act.read).name ++ ": " ++ message ++ "\n")

/-- Complain, and go on with a status that says so. -/
def warn (message : String) : Task Unit := do
  remark message
  mark 1

/-- Complain, and end with a status. -/
def die {α : Type} (n : Nat) (message : String) : Task α := do
  remark message
  quit n

/-- Tell where to find help, and end with a status. -/
def advise {α : Type} (n : Nat) : Task α := do
  tell ("Try '" ++ (← Act.read).name ++ " --help' for more information.\n")
  quit n

/-- Complain about the arguments, and end with a status. -/
def misuse {α : Type} (n : Nat) (message : String) : Task α := do
  remark message
  advise n

/-- The text of a failure without its number. -/
def reasonOf : IoError → String
  | .os errno => errno.description
  | e => e.message

/-! ## Output -/

/-- What happens if output does not get through. -/
def notWritten (trouble : Nat) (errno : Errno) : Task Unit := do
  if errno = .brokenPipe ∧ !(← Act.read).process.deaf.contains 13 then Act.fail (.killed 13)
  else die trouble ("write error: " ++ errno.description)

/-- Print, and end with a status if that does not get through. -/
def sayOr (trouble : Nat) (text : String) : Task Unit := do
  match ← onMachine fun p => writeTo p 1 (Raw.toBytes text) with
  | .ok () => pure ()
  | .error errno => notWritten trouble errno

/-- Print. -/
def say (text : String) : Task Unit := sayOr 1 text

/-! ## Input -/

/-- The text at a path, or of the input if the path is a dash, up to so many bytes. -/
def textUpTo (count : Option Nat) (path : String) : Task (Except IoError String) := do
  let read (p : Process) (fd : Nat) : Run (Except IoError String) := do
    pure (((← readSome p fd count).map Raw.ofBytes).mapError .os)
  if path = "-" then onMachine fun p => read p 0
  else
    match ← onMachine fun p => openPath p path .read with
    | .error e => pure (.error e)
    | .ok channel => do
      let number := 10
      onMachine fun p => read (p.setChannel number (some channel)) number

/-- The text at a path, or of the input if the path is a dash. -/
def textOf (path : String) : Task (Except IoError String) := textUpTo none path

/-- The channel of a number, if there is one that is open. -/
def channelOf (fd : Nat) : Task (Option Channel) := do
  let desk ← Act.read
  pure ((desk.process.channel? fd).bind fun c => desk.machine.channels[c]?)

/-- Give back what was read last of the input and is not used. -/
def handBack (text : String) : Task Unit := onMachine fun p => unread p 0 (Raw.toBytes text)

/-- Give back what was read last of the input and is not used, if the input is a file. -/
def giveBack (text : String) : Task Unit := do
  match (← channelOf 0).map Channel.target with
  | some (.file _) | some .nameless => handBack text
  | _ => pure ()

/-- The lines of a text, without their ends. -/
def linesOf (text : String) : List String :=
  let pieces := text.splitOn "\n"
  if pieces.getLast? = some "" then pieces.dropLast else pieces

/-- The lines of a text, each with its end if it has one. -/
def fullLinesOf (text : String) : List String :=
  let pieces := text.splitOn "\n"
  (pieces.dropLast.map (· ++ "\n")) ++ (pieces.getLast?.filter fun l => !l.isEmpty).toList

/-- Lines as a text. -/
def unlines (lines : List String) : String := String.join (lines.map (· ++ "\n"))

/-! ## Names in messages -/

/-- Whether a character has a meaning for a shell. -/
def isOdd (c : Char) : Bool :=
  " \t\n!\"$&'()*;<=>?[\\^\x60|".toList.contains c || c.toNat < 0x20 || 0x7F ≤ c.toNat

/-- Whether a name is shown in quotes only. -/
def isOddName (name : String) : Bool :=
  name.isEmpty || name.toList.any isOdd || name.startsWith "#" || name.startsWith "~" ||
    name == "\x7b" || name == "\x7d"

/-- The escape of a character that cannot be printed. -/
def escapeOf (c : Char) : String :=
  match c with
  | '\n' => "\\n"
  | '\t' => "\\t"
  | '\r' => "\\r"
  | c =>
    if c.toNat = 7 then "\\a" else if c.toNat = 8 then "\\b" else if c.toNat = 11 then "\\v"
    else if c.toNat = 12 then "\\f"
    else
      let ds := Nat.toDigits 8 c.toNat
      "\\" ++ String.ofList (List.replicate (3 - ds.length) '0' ++ ds)

/-- The characters of a name between single quotes. -/
def quotedChars (escaping : Bool) : List Char → String
  | [] => if escaping then "'" else ""
  | c :: cs =>
    if c.toNat < 0x20 ∨ 0x7F ≤ c.toNat then
      (if escaping then "" else "'$'") ++ escapeOf c ++ quotedChars true cs
    else
      (if escaping then "''" else "") ++
        (if c = '\'' then "'\\''" else c.toString) ++ quotedChars false cs

/-- Whether a character may stand between double quotes in a name, `first` and `alone` telling whether
it starts the name and is all of it. -/
def isMild (first alone : Bool) (c : Char) : Bool :=
  c.isAlphanum || " %'+,-./:@]_".toList.contains c || (first && (c == '#' || c == '~')) ||
    (alone && (c == '\x7b' || c == '\x7d'))

/-- A name in quotes. -/
def quoted (name : String) : String :=
  let cs := name.toList
  let mild := match cs with
    | [] => true
    | c :: rest => isMild true rest.isEmpty c && rest.all (isMild false false)
  if cs.contains '\'' && mild then "\"" ++ name ++ "\""
  else
    let inner := quotedChars false cs
    let ended := (cs.getLast?).any fun c => c.toNat < 0x20 || 0x7F ≤ c.toNat
    "'" ++ inner ++ if ended then "" else "'"

/-- A word of the command line in quotes, with escapes in it. -/
def cited (word : String) : String :=
  let shown (c : Char) : String :=
    if c = '\'' ∨ c = '\\' then "\\" ++ c.toString
    else if c.toNat < 0x20 ∨ 0x7F ≤ c.toNat then escapeOf c
    else c.toString
  "'" ++ String.join (word.toList.map shown) ++ "'"

/-- A name, in quotes if a shell would need them. -/
def quotedIfOdd (name : String) : String := if isOddName name then quoted name else name

/-! ## Numbers -/

/-- The number that a text spells in digits. -/
def digits? (text : String) : Option Nat :=
  if !text.isEmpty && text.toList.all Char.isDigit then text.toNat? else none

/-- A text with blanks in front of it up to a width. -/
def padLeft (width : Nat) (text : String) : String :=
  String.ofList (List.replicate (width - text.length) ' ') ++ text

/-- A text with blanks behind it up to a width. -/
def padRight (width : Nat) (text : String) : String :=
  text ++ String.ofList (List.replicate (width - text.length) ' ')

end AslBuild.Tools
