import AslBuild.Shell.Expansion
set_option autoImplicit false

/-!
# Redirections

The targets of all redirections of a command are found first. Then the streams are opened one after
the other, up to the first that cannot be.

## Main definitions

* `AslBuild.Shell.Diversion` — a redirection whose target is known.
* `AslBuild.Shell.diversionsOf` — the targets of redirections.
* `AslBuild.Shell.divert` — open the streams.
* `AslBuild.Shell.restoring` — do a step, and give the streams back afterwards.
-/

namespace AslBuild.Shell

open FileSystem Host Text

/-- A redirection whose target is known. -/
structure Diversion where
  /-- The number of the stream. -/
  stream : Nat
  /-- What is done with it. -/
  direction : Direction
  /-- A path, the number of another stream, or a text to be read. -/
  target : String

/-- The text of a document. -/
def documentText (e : Engine) (number : Nat) : Sh String := do
  match (← Act.read).documents.lookup number with
  | some w => pure (joined (← atomsOf e false w))
  | none => pure ""

/-- Whether a text is a number of a stream, or the sign that a stream is closed. -/
def isStream (extended : Bool) (text : String) : Bool :=
  text == "-" || (!text.isEmpty && text.toList.all Char.isDigit && (extended || text.length == 1))

/-- A redirection that names no stream where it has to. -/
def badStream {α : Type} (text : String) : Sh α := do
  if (← Act.read).extended then fail (text ++ ": ambiguous redirect")
  else
    Act.update fun s => { s with line := s.reached }
    fail "Syntax error: Bad fd number"

/-- The first number that is given to a stream that a variable is set to. -/
def firstChosen : Nat := 10

/-- The number of the stream of a redirection that leads to a text. A variable may be set to a number
that is free, or have the number of a stream that is closed. -/
def streamOf (r : Redirect Word) (target : String) : Sh Nat := do
  match r.chosen with
  | none => pure r.stream
  | some name => do
    let s ← Act.read
    if r.direction = .copy ∧ target = "-" then pure ((s.get name).toNat?.getD 0)
    else
      let used := s.process.descriptors.map (·.1)
      let number := ((List.range' firstChosen 245).find? fun n => !used.contains n).getD firstChosen
      assign name (toString number)
      pure number

/-- The target of a redirection. -/
def diversionOf (e : Engine) (r : Redirect Word) : Sh Diversion := do
  let extended := (← Act.read).extended
  let divert (direction : Direction) (target : String) : Sh Diversion := do
    pure ⟨← streamOf r target, direction, target⟩
  match r.direction with
  | .document number => do divert r.direction (← documentText e number)
  | .text => do divert r.direction ((← textOf e r.target) ++ "\n")
  | .copy =>
    let text ← textOf e r.target
    if isStream extended text || (extended && r.stream == 1) then divert .copy text
    else badStream text
  | direction =>
    if extended then
      match ← fieldsOf e r.target with
      | [path] => divert direction path
      | _ => fail ((← textOf e r.target) ++ ": ambiguous redirect")
    else do divert direction (← textOf e r.target)

/-- The streams that redirections change for one command only. -/
def changedStreams (redirects : List (Redirect Word)) : List Nat :=
  redirects.filterMap fun r => if r.chosen.isNone then some r.stream else none

/-- A redirection whose target is a file though it looks like a copy means output and messages. -/
def Diversion.split (d : Diversion) : List Diversion :=
  if d.direction = .copy ∧ !isStream true d.target then
    [⟨1, .output, d.target⟩, ⟨2, .copy, "1"⟩]
  else [d]

/-- The targets of redirections, one after the other. -/
def diversionsOf (e : Engine) : List (Redirect Word) → Sh (List Diversion)
  | [] => pure []
  | r :: rs => do
    let d ← diversionOf e r
    pure (d.split ++ (← diversionsOf e rs))

/-- The text of a failure without its number. -/
def reasonOf : IoError → String
  | .os errno => errno.description
  | e => e.message

/-- Why a file cannot be opened, or made. -/
def openingProblem (making : Bool) (e : IoError) : String :=
  if e = .os .noEntry ∨ e = .os .notDirectory then
    if making then "Directory nonexistent" else "No such file"
  else reasonOf e

/-- Let a stream lead to a channel, or close it. -/
def setStream (stream : Nat) (channel : Option Nat) : Sh Unit :=
  changeProcess fun p => p.setChannel stream channel

/-- What is said of a path that cannot be opened. -/
def cannotOpen (extended making : Bool) (path : String) (e : IoError) : String :=
  if extended then
    path ++ ": " ++ if e = .os .alreadyExists then "cannot overwrite existing file" else reasonOf e
  else
    (if making then "cannot create " else "cannot open ") ++ path ++ ": " ++ openingProblem making e

/-- Open the file of a path as a stream. What is said if that fails is given. -/
def openStream (stream : Nat) (path : String) (how : Opening) : Sh (Option String) := do
  match ← onMachine fun p => openPath p path how with
  | .ok channel =>
    setStream stream (some channel)
    pure none
  | .error e => pure (some (cannotOpen (← Act.read).extended how.writes path e))

/-- How output is written to a path if files are protected. -/
def protectedOpening (d : Disk) (path : String) : Opening :=
  match d.stat ⟨Raw.toText path⟩ with
  | .ok (_, .device _) => .append
  | .ok (_, .dir _) => .append
  | _ => .fresh

/-- Open the stream of a redirection. What is said if that fails is given. If the stream is put aside
for later, it is closed by then. -/
def divertOne (aside : Bool) (d : Diversion) : Sh (Option String) := do
  match d.direction with
  | .source => openStream d.stream d.target .read
  | .output =>
    let s ← Act.read
    openStream d.stream d.target
      (if s.has "noclobber" then protectedOpening s.disk d.target else .write)
  | .overwrite => openStream d.stream d.target .write
  | .append => openStream d.stream d.target .append
  | .update => openStream d.stream d.target .update
  | .copy =>
    if d.target = "-" then
      setStream d.stream none
      pure none
    else
      let number := d.target.toNat?.getD 0
      if number = d.stream then pure none
      else match (← Act.read).process.channel? number with
        | some channel =>
          setStream d.stream (some channel)
          pure none
        | none =>
          if aside && !(← Act.read).extended then setStream d.stream none
          pure (some (toString number ++ ": Bad file descriptor"))
  | .document _ | .text =>
    let channel ← onMachine fun _ => newPipe (Raw.toBytes d.target)
    setStream d.stream (some channel)
    pure none

/-- Open the streams of redirections, up to the first that cannot be opened. What is said of that
one is given. -/
def divert (aside : Bool) : List Diversion → Sh (Option String)
  | [] => pure none
  | d :: ds => do
    match ← divertOne aside d with
    | none => divert aside ds
    | some message => pure (some message)

/-- The first number of the channels that hold what commands print. -/
def firstFeed : Nat := 20

/-- Do a step, and close the channels afterwards that were opened in it to hold what commands
print. -/
def tidying {α : Type} (x : Sh α) : Sh α := do
  let before := (← Act.read).process.descriptors
  afterwards x fun s =>
    { s with process := { s.process with
      descriptors := s.process.descriptors.filter fun d =>
        d.1 < firstFeed || before.any fun b => b.1 == d.1 } }

/-- Do a step, and let some streams lead afterwards to where they led before. -/
def restoring {α : Type} (streams : List Nat) (x : Sh α) : Sh α := do
  let before := (← Act.read).process
  afterwards x fun s =>
    { s with process := streams.foldl (fun p n => p.setChannel n (before.channel? n)) s.process }

end AslBuild.Shell
