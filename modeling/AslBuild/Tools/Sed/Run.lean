import AslBuild.Tools.Paths
import AslBuild.Tools.Running
import AslBuild.Tools.Sed.Reader
import AslBuild.Tools.Text
set_option autoImplicit false

/-!
# Carrying out editing scripts

## Main definitions

* `AslBuild.Tools.Sed.Bench` — the line that is edited, and all that is around it.
* `AslBuild.Tools.Sed.replace` — a line with matches replaced.
* `AslBuild.Tools.Sed.perform` — carry out a script from an instruction on.
* `AslBuild.Tools.Sed.edit` — carry out a script for every line.
* `AslBuild.Tools.sed` — edit files.
-/

namespace AslBuild.Tools

open FileSystem Host Text

namespace Sed

/-! ## What is worked with -/

/-- What is printed at the end of a cycle. -/
inductive Queued
  /-- A text. -/
  | text (t : String)
  /-- A file. -/
  | file (path : String)

/-- How a script is carried out. -/
structure Manner where
  /-- Whether lines are printed only if the script says so. -/
  quiet : Bool
  /-- Whether every file is edited by itself. -/
  separate : Bool
  /-- Whether files are changed, and what is added to the names of the old ones. -/
  inPlace : Option String
  /-- The end of a line. -/
  lineEnd : String
  /-- The width of the lines in which everything can be seen. -/
  width : Nat
  /-- Whether a line is lost that was to be joined with a next one when there is none. -/
  strict : Bool
  /-- Whether no more is read of the input than is needed. -/
  sparing : Bool
  /-- Whether what links lead to is changed, not the links. -/
  follows : Bool
  /-- What a command prints. -/
  outputOf : String → Task String
  /-- What stands in front of what is said of the script once it is carried out. -/
  lead : String

/-- The line that is edited, and all that is around it. -/
structure Bench where
  /-- How the script is carried out. -/
  manner : Manner
  /-- The line. -/
  line : String := ""
  /-- Whether the line has an end. -/
  ended : Bool := true
  /-- What is held. -/
  held : String := ""
  /-- Whether what is held has an end. -/
  heldEnded : Bool := true
  /-- The number of the line. -/
  number : Nat := 0
  /-- Whether something was replaced since the line was read. -/
  replaced : Bool := false
  /-- The lines of the file that were not read yet, each with whether it has an end. -/
  rest : List (String × Bool) := []
  /-- The files that were not read yet. -/
  later : List String
  /-- The file that is read. -/
  name : String := "-"
  /-- Whether a file is open. -/
  isOpen : Bool := false
  /-- What is printed at the end of the cycle. -/
  queue : List Queued := []
  /-- The ranges that are open, by the numbers of their instructions, with where they end if that is
  known. -/
  ranges : List (Nat × Option Nat) := []
  /-- The ranges that are over, by the numbers of their instructions. -/
  closed : List Nat := []
  /-- The ranges that are open before the first line. -/
  early : List (Nat × Option Nat) := []
  /-- The expression that was used last. -/
  recent : Option Regex := none
  /-- Whether the end of the line that was printed last is missing. -/
  owes : Bool := false
  /-- What was printed of a file that is changed, the last of it first. -/
  made : List String := []
  /-- The files that are written to, with their channels, and whether the end of a line is
  missing. -/
  outputs : List (String × Nat × Bool) := []
  /-- The lines that were not read yet of files that are read line by line. -/
  sources : List (String × List (String × Bool)) := []

/-- A step of editing. -/
abbrev Step (α : Type) : Type := StateT Bench Task α

/-- A step of the tool. -/
def onTask {α : Type} (x : Task α) : Step α := StateT.lift x

/-! ## Printing -/

/-- Print, where the output of the script goes. -/
def put (text : String) : Step Unit := do
  let b ← get
  let text := (if b.owes then b.manner.lineEnd else "") ++ text
  if b.manner.inPlace.isSome then set { b with made := text :: b.made, owes := false }
  else do
    set { b with owes := false }
    onTask (sayOr 4 text)

/-- Print a line. -/
def putLine (line : String) (ended : Bool) : Step Unit := do
  let b ← get
  put (line ++ if ended then b.manner.lineEnd else "")
  modify fun b => { b with owes := !ended }

/-- Write a line to a file. -/
def writeLine (path line : String) (ended : Bool) : Step Unit := do
  let b ← get
  if path = "/dev/stdout" then putLine line ended
  else match b.outputs.lookup path with
    | none => pure ()
    | some (channel, owes) => do
      let text := (if owes then b.manner.lineEnd else "") ++ line ++
        if ended then b.manner.lineEnd else ""
      let _ ← onTask (onMachine fun p =>
        writeTo (p.setChannel 10 (some channel)) 10 (Raw.toBytes text))
      let outputs := b.outputs.map fun (o : String × Nat × Bool) =>
        if o.1 == path then (path, channel, !ended) else o
      set { b with outputs }

/-- The first line of several. -/
def firstLine (lineEnd text : String) : String := ((text.splitOn lineEnd).head?).getD ""

/-- What is seen of a character. -/
def visible (c : Char) : String :=
  if c = '\\' then "\\\\" else if c.toNat < 0x20 ∨ 0x7F ≤ c.toNat then
    (if c = '\x08' then "\\b" else escapeOf c) else c.toString

/-- Pieces in lines of a width, in which a sign for the end of the line has to fit. -/
def wrapped (width : Nat) : Nat → List String → String
  | _, [] => "$"
  | column, piece :: pieces =>
    if 0 < width ∧ width ≤ column + piece.length then
      "\\\n" ++ piece ++ wrapped width piece.length pieces
    else piece ++ wrapped width (column + piece.length) pieces

/-- Print what is queued. -/
def flush : Step Unit := do
  let queue := (← get).queue
  modify fun b => { b with queue := [] }
  queue.forM fun q => do
    match q with
    | .text t => put t
    | .file path => do
      match ← onTask (textOf path) with
      | .ok text => if text.isEmpty then pure () else put text
      | .error _ => pure ()

/-! ## Input -/

/-- The lines of a text, each with whether it has an end. -/
def linesWithEnds (lineEnd text : String) : List (String × Bool) :=
  let pieces := text.splitOn lineEnd
  pieces.dropLast.map (fun l => (l, true)) ++
    ((pieces.getLast?.filter fun l => !l.isEmpty).map fun l => (l, false)).toList

/-- A text that ends like a line, with the end that lines have. -/
def withEnd (lineEnd text : String) : String :=
  if text.endsWith "\n" then (text.dropEnd 1).toString ++ lineEnd else text

/-- The name of the old version of a file. -/
def backupName (suffix path : String) : String :=
  let name := lastName path
  let dir := String.ofList (path.toList.take (path.length - name.length))
  let backup := if suffix.toList.contains '*' then suffix.replace "*" name else name ++ suffix
  if backup.toList.contains '/' then backup else dir ++ backup

/-- The path that links at the end of a path lead to, at most so many of them. -/
def targetOf : Nat → String → Task String
  | 0, path => pure path
  | n + 1, path => do
    match ← entryHere path with
    | .ok (.link target) =>
      let target := Raw.ofText target
      targetOf n (if target.startsWith "/" || !path.toList.contains '/' then target
        else inside (dirName path) target)
    | _ => pure path

/-- Finish with the file that is read: if files are changed, it becomes what was printed. -/
def closeFile : Step Unit := do
  let b ← get
  set { b with isOpen := false, made := [], owes := if b.manner.inPlace.isSome then false else b.owes }
  match b.manner.inPlace, b.isOpen with
  | some suffix, true => do
    let text := String.join b.made.reverse
    let old ← onTask (entryAt b.name)
    match old with
    | .ok (.file contents mode) => do
      let name ← if b.manner.follows then onTask (targetOf 40 b.name) else pure b.name
      if !suffix.isEmpty then
        let place := pathOf (backupName suffix name)
        match ← onTask (onFiles (Disk.write place contents)) with
        | .ok _ => pure ()
        | .error e => onTask (die 4 ("cannot rename " ++ name ++ ": " ++ reasonOf e))
        let _ ← onTask (onFiles (Disk.setMode place fun _ => mode))
      let _ ← onTask (onFiles (Disk.unlink (pathOf name)))
      let _ ← onTask (onFiles (Disk.write (pathOf name) (Raw.toBytes text)))
      let _ ← onTask (onFiles (Disk.setMode (pathOf name) fun _ => mode))
    | _ => pure ()
  | _, _ => pure ()

/-- What is said of a file that cannot be read. -/
def unreadable (path : String) (e : IoError) : String :=
  if e = .os .isDirectory then "read error on " ++ path ++ ": " ++ reasonOf e
  else "can't read " ++ path ++ ": " ++ reasonOf e

/-- Open the next file that can be read. Whether there is one is given. -/
def openNext : List String → Step Bool
  | [] => do
    modify fun b => { b with later := [] }
    pure false
  | path :: paths => do
    closeFile
    let complain (message : String) (status : Nat) : Step Bool := do
      onTask (remark message)
      onTask (mark status)
      openNext paths
    let b ← get
    let isDir := isDirectory (← onTask (entryAt path))
    let isDevice := match ← onTask (entryAt path) with
      | .ok (.device _) => true
      | _ => false
    if b.manner.inPlace.isSome && (isDir || isDevice) then
      complain ("couldn't edit " ++ path ++ ": not a regular file") 4
    else
      match ← onTask (textOf path) with
      | .ok text => do
        modify fun b => { b with
          later := paths
          name := path
          isOpen := true
          rest := linesWithEnds b.manner.lineEnd text
          number := if b.manner.separate then 0 else b.number
          ranges := if b.manner.separate then b.early else b.ranges
          closed := if b.manner.separate then [] else b.closed }
        if text.isEmpty then openNext paths else pure true
      | .error e => complain (unreadable path e) (if e = .os .isDirectory then 4 else 2)

/-- Whether there is another line. If every file is edited by itself, only this one counts. -/
def hasNext : Step Bool := do
  let b ← get
  if !b.rest.isEmpty then pure true
  else if b.manner.separate then pure false
  else openNext b.later

/-- Read the next line, and add it to the line if that is asked for. Whether there is one is
given. -/
def readNext (append : Bool) : Step Bool := do
  flush
  let b ← get
  let more ← if b.rest.isEmpty then openNext b.later else pure true
  if !more then pure false
  else do
    let b ← get
    match b.rest with
    | [] => pure false
    | (line, ended) :: rest => do
      set { b with
        line := if append then b.line ++ b.manner.lineEnd ++ line else line
        ended
        rest
        number := b.number + 1
        replaced := false }
      pure true

/-! ## Addresses -/

/-- The expression of a pattern, which is then the one that was used last. -/
def expression (p : Pattern) : Step Regex := do
  match p.or (← get).recent with
  | some r => do
    modify fun b => { b with recent := some r }
    pure r
  | none => do
    let lead := (← get).manner.lead
    onTask (die 1 (lead ++ "no previous regular expression"))

/-- Whether an address means the line. -/
def isAt (a : Address) : Step Bool := do
  let b ← get
  match a with
  | .line n => pure (b.number == n)
  | .every first step =>
    pure (if step = 0 then b.number == first
      else first ≤ b.number && (b.number - first) % step == 0)
  | .last => do pure !(← hasNext)
  | .holding p => do
    let r ← expression p
    pure (r.isIn b.line.toList)

/-- Whether a range means the line, which is not open yet. One that starts at a number starts only
once, but later than there if the line with that number was not asked about. -/
def opens (place : Nat) (first : Address) (stop : Stop) : Step Bool := do
  let b ← get
  let n := b.number
  let starts ← match first with
    | .line start => pure (start != 0 && start ≤ n && !b.closed.contains place)
    | _ => isAt first
  if !starts then pure false
  else
    let keep (last : Option Nat) : Step Unit := modify fun b =>
      { b with ranges := (place, last) :: b.ranges }
    let finish : Step Unit := modify fun b => { b with closed := place :: b.closed }
    match stop with
    | .at_ (.line last) => do
      if n < last then keep (some last) else finish
      match first with
      | .line start => pure (n == start || n ≤ last)
      | _ => pure true
    | .after count => do
      if 0 < count then keep (some (n + count)) else finish
      pure true
    | .multiple m => do
      if 0 < m then keep (some (n + m - n % m)) else finish
      pure true
    | .at_ _ => do
      keep none
      pure true

/-- Whether a guard means the line. -/
def isMeant (place : Nat) (g : Guard) : Step Bool := do
  let close : Step Unit := modify fun b =>
    { b with ranges := b.ranges.filter fun r => r.1 != place, closed := place :: b.closed }
  let plain : Bool ← match g.first, g.stop with
    | none, _ => pure true
    | some a, none => isAt a
    | some a, some stop => do
      let b ← get
      match b.ranges.lookup place, stop with
      | none, _ => opens place a stop
      | some (some last), _ => do
        if last ≤ b.number then close
        pure (b.number ≤ last)
      | some none, .at_ end_ => do
        if ← isAt end_ then close
        pure true
      | some none, _ => pure true
  pure (plain != g.negated)

/-- The ranges that are open before the first line. -/
def earlyRanges (script : List Instruction) : List (Nat × Option Nat) :=
  script.zipIdx.filterMap fun (i, place) => match i.guard.first, i.guard.stop with
    | some (.line 0), some _ => some (place, none)
    | _, _ => none

/-! ## Replacing -/

/-- A character with its case changed. -/
def Casing.apply (c : Casing) (x : Char) : Char :=
  match c with
  | .upper => x.toUpper
  | .lower => x.toLower
  | .plain => x

/-- Characters with their case changed, that of the first one in another way. -/
def recased (casing : Casing) (first : Option Casing) : List Char → List Char
  | [] => []
  | c :: cs => (first.getD casing).apply c :: cs.map casing.apply

/-- What is put in the place of a match. -/
def filled (m : Match) (cs : Array Char) (casing : Casing) (first : Option Casing) :
    List Piece → List Char
  | [] => []
  | .casing c :: ps => filled m cs c none ps
  | .nextCasing c :: ps => filled m cs casing (some c) ps
  | .text t :: ps => recased casing first t ++ filled m cs casing none ps
  | .group n :: ps =>
    let t := m.text cs n
    recased casing first t ++ filled m cs casing (if t.isEmpty then first else none) ps

/-- A line with matches replaced from a place on, and whether any were. `last` is where the last
match ended, and `count` how many there were. At most so many are looked for. -/
def replaceFrom (s : Substitution) (r : Regex) (cs : Array Char) :
    Nat → Nat → Option Nat → Nat → List Char × Bool
  | 0, i, _, _ => (pieceOf cs i cs.size, false)
  | n + 1, i, last, count =>
    match r.findFrom cs i with
    | none => (pieceOf cs i cs.size, false)
    | some m =>
      let front := pieceOf cs i m.start
      let isEmpty := m.start == m.stop
      let step (put : List Char) (count : Nat) : List Char × Bool :=
        let (more, found) :=
          if isEmpty && cs.size ≤ m.stop then ([], false)
          else replaceFrom s r cs n (if isEmpty then m.stop + 1 else m.stop) (some m.stop) count
        (front ++ put ++ (if isEmpty then pieceOf cs m.stop (m.stop + 1) else []) ++ more, found)
      if isEmpty && last == some m.start then step [] count
      else if count + 1 < s.which then step (pieceOf cs m.start m.stop) (count + 1)
      else
        let put := filled m cs .plain none s.pieces
        if s.everywhere then ((step put (count + 1)).1, true)
        else (front ++ put ++ pieceOf cs m.stop cs.size, true)

/-- A line with matches replaced, and whether any were. -/
def replace (s : Substitution) (r : Regex) (line : String) : String × Bool :=
  let cs := line.toList.toArray
  let (out, found) := replaceFrom s r cs (cs.size + 2) 0 none 0
  (String.ofList out, found)

/-! ## Instructions -/

/-- How a cycle ends. -/
inductive Ending
  /-- The line is printed, unless the script has to say so. -/
  | usual
  /-- Nothing is printed. -/
  | silent
  /-- Nothing is printed, and no line is read for the next cycle. -/
  | again
  /-- The script ends with a status, and the line is printed or not. -/
  | over (status : Nat) (prints : Bool)

/-- The next line of a file that is read line by line, and whether it has an end. -/
def nextOf (path : String) : Step (Option (String × Bool)) := do
  let b ← get
  let lines ← match b.sources.lookup path with
    | some lines => pure lines
    | none => do
      let text := (← onTask (textOf path)).toOption
      pure ((text.map (linesWithEnds b.manner.lineEnd)).getD [])
  modify fun b => { b with
    sources := (path, lines.tail) :: b.sources.filter fun s => s.1 != path }
  pure lines.head?

/-- Print the line in place of the one that was read, if it is printed in any case. -/
def printUsual : Step Unit := do
  let b ← get
  if b.manner.quiet then pure () else putLine b.line b.ended

/-- Add something to what is printed at the end of the cycle. -/
def enqueue (q : Queued) : Step Unit := modify fun b => { b with queue := b.queue ++ [q] }

/-- What a line prints that is run as a command, without the end of the last line. -/
def ranOutput (line : String) : Step String := do
  let b ← get
  let text ← onTask (b.manner.outputOf line)
  pure (if text.endsWith b.manner.lineEnd then (text.dropEnd 1).toString else text)

/-- Do what an instruction says that does not lead elsewhere. The end of the cycle is given, if it
comes. -/
def act (a : Action) (inRange : Bool) : Step (Option Ending) := do
  let b ← get
  match a with
  | .block _ | .nothing | .branch .. => pure none
  | .number => do
    put (toString b.number ++ b.manner.lineEnd)
    pure none
  | .append t => do
    enqueue (.text t)
    pure none
  | .insert t => do
    if !t.isEmpty then put (withEnd b.manner.lineEnd t)
    pure none
  | .change t => do
    if !inRange && !t.isEmpty then put (withEnd b.manner.lineEnd t)
    pure (some .silent)
  | .delete => pure (some .silent)
  | .deleteFirst =>
    match b.line.splitOn b.manner.lineEnd with
    | [_] => pure (some .silent)
    | pieces => do
      set { b with line := b.manner.lineEnd.intercalate pieces.tail }
      pure (some .again)
  | .clear => do
    set { b with line := "" }
    pure none
  | .take append => do
    set { b with
      line := if append then b.line ++ b.manner.lineEnd ++ b.held else b.held
      ended := b.heldEnded }
    pure none
  | .hold append => do
    set { b with
      held := if append then b.held ++ b.manner.lineEnd ++ b.line else b.line
      heldEnded := b.ended }
    pure none
  | .exchange => do
    set { b with line := b.held, held := b.line, ended := b.heldEnded, heldEnded := b.ended }
    pure none
  | .list width => do
    put (wrapped (width.getD b.manner.width) 0 (b.line.toList.map visible) ++ b.manner.lineEnd)
    pure none
  | .next append => do
    if !(← hasNext) then pure (some (if append && b.manner.strict then .silent else .usual))
    else do
      if !append then printUsual
      let _ ← readNext append
      pure none
  | .print firstOnly => do
    if firstOnly then putLine (firstLine b.manner.lineEnd b.line) true
    else putLine b.line b.ended
    pure none
  | .quit status prints => pure (some (.over status prints))
  | .readFile path => do
    enqueue (.file path)
    pure none
  | .readLine path => do
    match ← nextOf path with
    | some (line, ended) => enqueue (.text (line ++ if ended then b.manner.lineEnd else ""))
    | none => pure ()
    pure none
  | .substitute s => do
    let r ← expression s.pattern
    let (line, found) := replace s r b.line
    if found then
      modify fun b => { b with line, replaced := true }
      if s.printsFirst then putLine line b.ended
      let line ← if s.runs then ranOutput line else pure line
      modify fun b => { b with line }
      if s.prints && !s.printsFirst then putLine line b.ended
      match s.file with
      | some path => writeLine path line b.ended
      | none => pure ()
    pure none
  | .translate pairs => do
    set { b with line := b.line.map fun c => (pairs.lookup c).getD c }
    pure none
  | .write path firstOnly => do
    if firstOnly then writeLine path (firstLine b.manner.lineEnd b.line) true
    else writeLine path b.line b.ended
    pure none
  | .fileName => do
    put (b.name ++ b.manner.lineEnd)
    pure none
  | .run (some command) => do
    let text ← onTask (b.manner.outputOf command)
    if !text.isEmpty then put text
    pure none
  | .run none => do
    let line ← ranOutput b.line
    modify fun b => { b with line }
    pure none

/-- Whether a branch is taken. -/
def isTaken (c : Condition) : Step Bool := do
  let replaced := (← get).replaced
  match c with
  | .always => pure true
  | .replaced => do
    modify fun b => { b with replaced := false }
    pure replaced
  | .notReplaced => do
    modify fun b => { b with replaced := false }
    pure !replaced

/-- Carry out a script from an instruction on, in at most so many steps. -/
def perform (script : Array Instruction) : Nat → Nat → Step Ending
  | 0, _ => pure .usual
  | n + 1, place => do
    match script[place]? with
    | none => pure .usual
    | some i => do
      let meant ← isMeant place i.guard
      match i.action, meant with
      | .block stop, false => perform script n stop
      | _, false => perform script n (place + 1)
      | .branch condition target, true => do
        if ← isTaken condition then perform script n target else perform script n (place + 1)
      | action, true => do
        let open_ := (← get).ranges.any fun r => r.1 == place
        match ← act action open_ with
        | some ending => pure ending
        | none => perform script n (place + 1)

/-- The most steps of a script for one line. -/
def stepLimit : Nat := 1000000

/-- Carry out a script for every line, in at most so many cycles. -/
def edit (script : Array Instruction) : Nat → Bool → Step Unit
  | 0, _ => pure ()
  | n + 1, again => do
    let ready ← if again then pure true else readNext false
    if !ready then pure ()
    else do
      match ← perform script stepLimit 0 with
      | .usual => do
        printUsual
        flush
        edit script n false
      | .silent => do
        flush
        edit script n false
      | .again => do
        flush
        edit script n true
      | .over status prints => do
        if prints then printUsual
        flush
        let b ← get
        if b.name = "-" then
          let left := String.join (b.rest.map fun (line, ended) =>
            line ++ if ended then b.manner.lineEnd else "")
          onTask (if b.manner.sparing then handBack left else giveBack left)
        closeFile
        onTask (quit status)

/-- The most cycles of a script. -/
def cycleLimit : Nat := 10000000

/-! ## Files -/

/-- The files that a script writes to. -/
def writtenBy (script : List Instruction) : List String :=
  script.filterMap fun i => match i.action with
    | .write path _ => some path
    | .substitute s => s.file
    | _ => none

/-- The files that a script prints in front of the first line. -/
def leadingFiles (script : List Instruction) : List String :=
  script.filterMap fun i => match i.guard.first, i.guard.stop, i.action with
    | some (.line 0), none, .readFile path => some path
    | _, _, _ => none

/-- Open the files that a script writes to. -/
def openOutputs (paths : List String) : Task (List (String × Nat × Bool)) :=
  paths.eraseDups.filterMapM fun path => do
    if path = "/dev/stdout" then pure none
    else match ← onMachine fun p => openPath p path .write with
      | .ok channel => pure (some (path, channel, false))
      | .error e => die 4 ("couldn't open file " ++ path ++ ": " ++ reasonOf e)

/-- Say that a script cannot be read, and end. The script consists of parts, each with whether it is
the text of a file, and its name. -/
def misread {α : Type} (m : Mistake) (parts : List (Option String × String)) : Task α := do
  match m.place with
  | none => die 4 m.message
  | some place => locate place 1 parts
where
  /-- Find the part that the mistake is in. -/
  locate (place number : Nat) : List (Option String × String) → Task α
    | [] => die 1 ("-e expression #1, char 0: " ++ m.message)
    | (file, text) :: rest =>
      if place ≤ text.length || rest.isEmpty then
        match file with
        | some name =>
          let line := ((text.toList.take place).filter (· == '\n')).length + 1
          die 1 ("file " ++ name ++ " line " ++ toString line ++ ": " ++ m.message)
        | none =>
          die 1 ("-e expression #" ++ toString number ++ ", char " ++
            toString (if m.whole then 0 else place) ++ ": " ++ m.message)
      else locate (place - text.length - 1) (if file.isSome then number else number + 1) rest

end Sed

/-- The options of `sed`. -/
def sedChoices : Choices where
  letters := "bsnre:f:l:i::uEz"
  words := [("binary", 'b'), ("regexp-extended", 'r'), ("debug", 'd'), ("expression", 'e'),
    ("file", 'f'), ("in-place", 'i'), ("line-length", 'l'), ("null-data", 'z'),
    ("zero-terminated", 'z'), ("quiet", 'n'), ("posix", 'p'), ("silent", 'n'), ("sandbox", 'S'),
    ("separate", 's'), ("unbuffered", 'u'), ("version", versionLetter), ("help", helpLetter),
    ("follow-symlinks", 'F')]

/-- What a command prints that a shell runs. -/
def shellOutput (launch : Launch) (command : String) : Task String := do
  let pipe ← onMachine fun _ => newPipe []
  let _ ← running launch (fun p => p.setChannel 1 (some pipe)) "sh" ["-c", command]
  let text ← onMachine fun p => readText (p.setChannel 10 (some pipe)) 10
  pure (text.toOption.getD "")

/-- What stands in front of what is said of a script once it is carried out. The script consists of
parts, each with the name of its file, if it is in one. -/
def lateLead (parts : List (Option String × String)) : String :=
  match parts.getLast? with
  | some (some name, text) =>
    "file " ++ name ++ " line " ++ toString ((text.toList.filter (· == '\n')).length + 2) ++ ": "
  | _ => "-e expression #" ++ toString (parts.filter fun p => p.1.isNone).length ++ ", char 0: "

/-- The parts of the script that options give: each with the name of its file, if it is in one. -/
def scriptParts (g : Given) : Task (List (Option String × String)) :=
  (g.options.filter fun o => o.1 == 'e' || o.1 == 'f').mapM fun (letter, value) => do
    if letter = 'e' then pure (none, value)
    else match ← textOf value with
      | .ok text => pure (some value, if text.endsWith "\n" then (text.dropEnd 1).toString else text)
      | .error e => die 4 ("couldn't open file " ++ value ++ ": " ++ reasonOf e)

/-- Edit files. -/
def sed : Tool := .ofLaunching fun launch args => do
  let g ← given sedChoices args
  let parts ← scriptParts g
  let (parts, paths) ← match parts, g.operands with
    | [], [] => do
      tell ("Usage: " ++ (← Act.read).name ++
        " [OPTION]... \x7bscript-only-if-no-other-script\x7d [input-file]...\n\n")
      quit 1
    | [], script :: paths => pure ([(none, script)], paths)
    | parts, paths => pure (parts, paths)
  let text := "\n".intercalate (parts.map (·.2))
  let lineMark := if g.has 'z' then Char.ofNat 0 else '\n'
  match Sed.read (g.has 'E' || g.has 'r') (g.has 'S') lineMark text with
  | .error m => Sed.misread m parts
  | .ok script => do
    let width := match g.value? 'l' with
      | none => 70
      | some t => ((String.ofList (t.toList.takeWhile Char.isDigit)).toNat?).getD 0
    let strict := g.has 'p' || ((← Act.read).process.value? "POSIXLY_CORRECT").isSome
    let manner : Sed.Manner :=
      { quiet := g.has 'n' || text.startsWith "#n\n" || text == "#n" ||
          (text.startsWith "#n" && (parts.head?.any fun p => p.1.isNone))
        separate := g.has 's' || g.has 'i'
        inPlace := g.value? 'i'
        lineEnd := lineMark.toString
        width
        strict
        sparing := g.has 'u'
        follows := g.has 'F'
        outputOf := shellOutput launch
        lead := lateLead parts }
    let outputs ← Sed.openOutputs (Sed.writtenBy script)
    let bench : Sed.Bench :=
      { manner, later := orInput paths, ranges := Sed.earlyRanges script
        early := Sed.earlyRanges script, outputs }
    let whole : Sed.Step Unit := do
      (Sed.leadingFiles script).forM fun path => Sed.enqueue (.file path)
      Sed.flush
      Sed.edit script.toArray Sed.cycleLimit false
      Sed.closeFile
    let _ ← whole.run bench
    pure ()

end AslBuild.Tools
