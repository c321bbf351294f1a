import AslBuild.Shell.Test
import AslBuild.Tools.Find.Query
import AslBuild.Tools.Running
set_option autoImplicit false

/-!
# Looking for files

The files below a directory are looked at in the order of their names.

## Main definitions

* `AslBuild.Tools.Find.holds` — whether a file meets a condition.
* `AslBuild.Tools.Find.search` — look at a file and at those below it.
* `AslBuild.Tools.find` — the tool.
-/

namespace AslBuild.Tools

open FileSystem Host Text

namespace Find

/-- The files that a command is about to be run for together. -/
structure Collection where
  /-- The number of the command. -/
  number : Nat
  /-- The words of the command. -/
  words : List String
  /-- The directory in which it is run, if that is not the present one. -/
  dir : Option Location
  /-- The files, the last one first. -/
  found : List String

/-- What was found out during a search. -/
structure Progress where
  /-- The files for commands for many files together. -/
  collections : List Collection := []
  /-- Whether the directory is not looked below. -/
  pruned : Bool := false
  /-- Whether the search is over. -/
  isOver : Bool := false

/-- A step of a search. -/
abbrev Step (α : Type) : Type := StateT Progress Task α

/-- A step of the tool. -/
def onTask {α : Type} (x : Task α) : Step α := StateT.lift x

/-! ## Numbers and patterns -/

/-- Whether two numbers compare so. -/
def Comparison.holds (c : Comparison) (a b : Int) : Bool :=
  match c with
  | .equal => a == b
  | .more => b < a
  | .less => a < b

/-- Whether a text fits a pattern. -/
def fits (pattern : String) (ignoresCase : Bool) (text : String) : Bool :=
  let (pattern, text) := if ignoresCase then (pattern.toLower, text.toLower) else (pattern, text)
  Shell.fits (Shell.globs { extended := true } (pattern.toList.map fun c => (c, false))) text.toList

/-- Whether it is so long ago that a file was changed. Whole days are counted; minutes are counted as
if each had begun. -/
def isAged (now time : Int) (c : Comparison) (count : Decimal) (unit : Int) : Bool :=
  let age := now - time
  let span := count.thousandths * unit / 1000
  if unit = 60000 then
    match c with
    | .more => span < age
    | .less => age < span
    | .equal => span - unit < age && age ≤ span
  else match c with
    | .more => span + unit ≤ age
    | .less => age < span
    | .equal => span ≤ age && age < span + unit

/-! ## Commands -/

/-- Run a command. Whether it went well is given. -/
def runCommand (launch : Launch) (change : Process → Process) (words : List String) :
    Task Bool := do
  match words with
  | [] => pure false
  | name :: arguments => do
    match ← running launch change name arguments with
    | .ok (.exited 0) => pure true
    | .ok _ => pure false
    | .error e => do
      remark (quoted name ++ ": " ++ reasonOf e)
      pure false

/-- Let a process work in a directory. -/
def workIn (dir : Option Location) (p : Process) : Process :=
  match dir with
  | some loc => { p with cwd := loc }
  | none => p

/-- Run a command for the files that were collected for it. -/
def runCollection (launch : Launch) (c : Collection) : Task Unit := do
  if !(← runCommand launch (workIn c.dir) (c.words ++ c.found.reverse)) then mark 1

/-- The directory of a file that is looked at. -/
def dirOf (d : Disk) (path : String) : Option Location := (d.locate (pathOf (dirName path))).toOption

/-- Collect a file for a command, which is run for those in other directories first. -/
def collectFile (launch : Launch) (number : Nat) (words : List String) (dir : Option Location)
    (path : String) : Step Unit := do
  let p ← get
  match p.collections.find? fun c => c.number == number with
  | some c =>
    let others := p.collections.filter fun c => c.number != number
    if c.dir = dir then
      set { p with collections := { c with found := path :: c.found } :: others }
    else
      onTask (runCollection launch c)
      set { p with collections := ⟨number, words, dir, [path]⟩ :: others }
  | none => set { p with collections := ⟨number, words, dir, [path]⟩ :: p.collections }

/-- Print to a channel, or to the output. -/
def sayTo (channel : Option Nat) (text : String) : Task Unit := do
  match channel with
  | none => say text
  | some c =>
    let _ ← onMachine fun p => writeTo (p.setChannel 10 (some c)) 10 (Raw.toBytes text)
    pure ()

/-- What is said of a file in a list. -/
def listed (d : Disk) (f : Found) : String :=
  let t := d.tree.changed f.place
  let age := d.tree.clock - t
  let when_ := if 0 ≤ age ∧ age < 15778476000 then "%b %e %H:%M" else "%b %e  %Y"
  padLeft 9 (toString (entryNumber d.tree f.place)) ++ " " ++
    padLeft 6 (toString ((blocksOf f.entry + 1) / 2)) ++ " " ++
    Permission.listed (kindLetter f.entry) (entryMode f.entry) ++ " " ++
    padLeft 3 (toString (entryLinks d.tree f.place f.entry)) ++ " " ++ padRight 8 userName ++ " " ++
    padRight 8 userName ++ " " ++ padLeft 8 (toString (entrySize f.entry)) ++ " " ++
    Moment.format t when_ ++ " " ++ f.path ++
    (match f.entry with
      | .link target => " -> " ++ Raw.ofText target
      | _ => "") ++ "\n"

/-! ## Conditions -/

/-- Whether a file meets a condition. -/
def holds (launch : Launch) (m : Manner) (f : Found) : Query → Step Bool
  | .const b => pure b
  | .both a b => do
    let first ← holds launch m f a
    if first && !(← get).isOver then holds launch m f b else pure false
  | .either a b => do
    let first ← holds launch m f a
    if first || (← get).isOver then pure first else holds launch m f b
  | .second a b => do
    let _ ← holds launch m f a
    if (← get).isOver then pure false else holds launch m f b
  | .not a => do
    let inner ← holds launch m f a
    pure !inner
  | .name pattern ic => pure (fits pattern ic (lastName f.path))
  | .path pattern ic => pure (fits pattern ic f.path)
  | .target pattern ic => pure (match f.entry with
    | .link target => fits pattern ic (Raw.ofText target)
    | _ => false)
  | .regex r =>
    pure (Regex.isIn (.seq (.anchor .start) (.seq r (.anchor .finish))) f.path.toList)
  | .kind letters false => pure (letters.contains (letterOf f.entry))
  | .kind letters true => do
    let d ← onTask files
    let found := if m.follow then d.lstat (pathOf f.path) else d.stat (pathOf f.path)
    match found with
    | .ok (_, e) => pure (letters.contains (letterOf e))
    | .error e =>
      if e = .os .tooManyLinks then
        onTask (warn (quoted f.path ++ ": " ++ reasonOf e))
        pure false
      else pure (letters.contains 'l')
  | .isEmpty => do
    let d ← onTask files
    pure (match f.entry with
      | .dir _ => (d.tree.names f.place).isEmpty
      | .file contents _ => contents.isEmpty
      | _ => false)
  | .size c n unit => pure (c.holds ((entrySize f.entry + unit - 1) / unit : Nat) n)
  | .mode sign bits =>
    let mode := entryMode f.entry
    pure (match sign with
      | some '-' => mode &&& bits == bits
      | some _ => bits == 0 || mode &&& bits != 0
      | none => mode == bits)
  | .links c n => do pure (c.holds (entryLinks (← onTask files).tree f.place f.entry) n)
  | .number c n => do pure (c.holds (entryNumber (← onTask files).tree f.place) n)
  | .owner c n => pure (c.holds userNumber n)
  | .age c count unit => do
    let t := (← onTask files).tree
    let now := if m.fromDayEnd then
        ((t.clock.fdiv Moment.dayLength) + 1) * Moment.dayLength
      else t.clock
    pure (isAged now (t.changed f.place) c count unit)
  | .newer time => do pure (time < (← onTask files).tree.changed f.place)
  | .allowed operator => do
    pure ((Shell.fileTest? { disk := ← onTask files } operator f.path).getD false)
  | .same place => do pure (isOneFile (← onTask files).tree place f.place)
  | .print channel finish => do
    onTask (sayTo channel (f.path ++ finish))
    pure true
  | .template channel pieces => do
    onTask (sayTo channel (filled (← onTask files) f pieces))
    pure true
  | .list channel => do
    onTask (sayTo channel (listed (← onTask files) f))
    pure true
  | .run words inside asks => do
    let d ← onTask files
    let name := if inside then "./" ++ lastName f.path else f.path
    let agreed ← if asks then onTask do
        tell ("< " ++ words.headD "" ++ " ... " ++ f.path ++ " > ? ")
        let line ← answer
        pure (line.startsWith "y" || line.startsWith "Y")
      else pure true
    if !agreed then pure false
    else
      let quiet ← onTask (onMachine fun _ =>
        addChannel { target := .device .null, readable := true })
      let change (p : Process) : Process :=
        let p := if asks then p.setChannel 0 (some quiet) else p
        workIn (if inside then dirOf d f.path else none) p
      onTask (runCommand launch change (words.map fun w => w.replace fileWord name))
  | .collect number words inside => do
    let d ← onTask files
    if inside then
      collectFile launch number words (dirOf d f.path) ("./" ++ lastName f.path)
    else collectFile launch number words none f.path
    pure true
  | .delete => do
    if f.path = "." then pure true
    else
      let place := pathOf f.path
      let r ← onTask (onFiles (match f.entry with
        | .dir _ => Disk.removeDir place
        | _ => Disk.unlink place))
      match r with
      | .ok () => pure true
      | .error e => do
        onTask (warn ("cannot delete " ++ quoted f.path ++ ": " ++ reasonOf e))
        pure false
  | .prune => do
    modify fun p => { p with pruned := true }
    pure true
  | .quit => do
    modify fun p => { p with isOver := true }
    pure true

/-! ## Searching -/

/-- What lies at a path. A link may be followed; one that leads nowhere is looked at itself. -/
def lookAt (d : Disk) (follow : Bool) (path : String) : Except IoError (Location × Entry) :=
  match d.lstat (pathOf path), follow with
  | .ok (place, .link target), true =>
    match d.stat (pathOf path) with
    | .ok r => .ok r
    | .error e => if e = .os .noEntry then .ok (place, .link target) else .error e
  | r, _ => r

/-- What lies at a name in a directory that may be listed but not entered. -/
def seenIn (d : Disk) (above : List (Location × String)) (path : String) :
    Option (Location × Entry) := do
  let (dir, _) ← above.head?
  let place := dir ++ [Raw.toText (lastName path)]
  (d.tree.get? place).map (place, ·)

/-- Look at a file and at those below it, so many levels deep. `above` are the directories above it,
each with its path. -/
def search (launch : Launch) (m : Manner) (q : Query) (top : String) :
    Nat → Nat → List (Location × String) → String → Step Unit
  | 0, _, _, _ => pure ()
  | n + 1, depth, above, path => do
    let d ← onTask files
    match lookAt d (m.follow || (m.followGiven && depth == 0)) path with
    | .error e => do
      let seen := if e = .os .accessDenied then seenIn d above path else none
      if seen.all fun found => isDirectory (.ok found.2) then
        onTask (warn (quoted path ++ ": " ++ reasonOf e))
      match seen with
      | some (place, entry) =>
        if m.least ≤ depth then
          let _ ← holds launch m { path, top, depth, place, entry } q
      | none => pure ()
    | .ok (place, entry) => do
      let circle := if isDirectory (.ok entry) then above.lookup place else none
      match circle with
      | some other =>
        onTask (warn ("File system loop detected; " ++ quoted path ++
          " is part of the same file system loop as " ++ quoted other ++ "."))
      | none => do
        let f : Found := { path, top, depth, place, entry }
        let look : Step Unit := do
          if m.least ≤ depth then
            let _ ← holds launch m f q
        modify fun p => { p with pruned := false }
        if !m.depthFirst then look
        let p ← get
        let below := isDirectory (.ok entry) && !(p.pruned && !m.depthFirst) &&
          m.most.all (depth < ·) && !p.isOver
        if below then
          match ← onTask (namesIn path) with
          | .error e => onTask (warn (quoted path ++ ": " ++ reasonOf e))
          | .ok names =>
            names.forM fun name => do
              if !(← get).isOver then
                search launch m q top n (depth + 1) ((place, path) :: above) (inside path name)
        if m.depthFirst && !(← get).isOver then look

/-- Look at files that are given, and at those below them. -/
def searchAll (launch : Launch) (m : Manner) (q : Query) (paths : List String) : Step Unit := do
  paths.forM fun path => do
    if !(← get).isOver then search launch m q path depthLimit 0 [] path
  let left := (← get).collections.mergeSort fun a b => a.number ≤ b.number
  onTask (left.forM (runCollection launch))

/-- Whether an argument belongs to a condition. Signs that cannot start one do only behind others. -/
def isOfCondition (arg : String) : Bool :=
  (arg.startsWith "-" && arg.length > 1) || arg == "(" || arg == "!"

/-- The options in front of all paths, and the other arguments. -/
def leading : Manner → List String → Task (Manner × List String)
  | m, "-H" :: args => leading { m with follow := false, followGiven := true } args
  | m, "-L" :: args => leading { m with follow := true, followGiven := false } args
  | m, "-P" :: args => leading { m with follow := false, followGiven := false } args
  | m, "--" :: args => pure (m, args)
  | _, ["-D"] => do
    remark "Missing argument after the -D option."
    advise 1
  | m, "-D" :: words :: args => do
    let known := ["all", "exec", "help", "opt", "rates", "search", "stat", "tree", "time"]
    (words.splitOn ",").forM fun w =>
      if known.contains w then pure ()
      else remark ("Ignoring unrecognised debug flag " ++ quoted w)
    leading m args
  | m, arg :: args => do
    if arg.startsWith "-O" then
      match (arg.drop 2).toString.toList with
      | [] => die 1 "The -O option must be immediately followed by a decimal integer"
      | c :: cs =>
        if !c.isDigit then die 1 "Please specify a decimal number immediately after -O"
        else if !cs.all Char.isDigit then
          die 1 ("Invalid optimisation level " ++ (arg.drop 2).toString)
        else leading m args
    else pure (m, arg :: args)
  | m, [] => pure (m, [])

end Find

/-- Look for files. -/
def find : Tool := .ofLaunching fun launch args => do
  let (manner, args) ← Find.leading {} args
  if args.any fun a => ["-help", "--help", "-version", "--version"].contains a then
    say "Usage: find [-H] [-L] [-P] [-Olevel] [-D debugopts] [path...] [expression]\n"
    quit 0
  let (paths, condition) := args.span fun a => !Find.isOfCondition a
  let (q, m) ← Find.queryOf manner condition
  let _ ← (Find.searchAll launch m q (if paths.isEmpty then ["."] else paths)).run {}
  pure ()

end AslBuild.Tools
