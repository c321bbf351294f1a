import AslBuild.Tools.Amount
import AslBuild.Tools.Paths
set_option autoImplicit false

/-!
# Tools that make directories and files

## Main definitions

* `AslBuild.Tools.mkdir` — make directories, and those above them.
* `AslBuild.Tools.touch` — make files, and set when they were changed.
* `AslBuild.Tools.truncate` — give files a size.
* `AslBuild.Tools.mktemp` — make a file or a directory with a fresh name.
-/

namespace AslBuild.Tools

open FileSystem Host Text

/-! ## Directories -/

/-- The options of `mkdir`. -/
def mkdirChoices : Choices where
  letters := "pm:vZ"
  words := [("context::", 'c'), ("mode", 'm'), ("parents", 'p'), ("verbose", 'v')]

/-- Complain that a directory cannot be made. -/
def notMade (path reason : String) : Task Unit :=
  warn ("cannot create directory " ++ cited path ++ ": " ++ reason)

/-- Say that a directory was made. -/
def sayMade (verbose : Bool) (path : String) : Task Unit := do
  if verbose then say ((← Act.read).name ++ ": created directory " ++ quoted path ++ "\n")

/-- Make the directories that a path leads through, which their owner may always use. Whether that
worked is given. -/
def makeWays (verbose : Bool) : List String → Task Bool
  | [] => pure true
  | way :: ways => do
    let name := lastName way
    let made ←
      if name = "." then pure none
      else if name = ".." then pure (some (.ok ()))
      else do
        let mask := (← Act.read).process.mask
        let made ← onFiles (Disk.makeDirWith dirMode (pathOf way))
        if made.toOption.isSome then
          let _ ← onFiles (Disk.setMode (pathOf way) fun mode =>
            mode ||| masked (Permission.without mask 0o300) dirMode)
          sayMade verbose way
        pure (some made)
    let entered ← if name = "." then pure (.ok (.dir dirMode)) else entryAt (way ++ "/.")
    match made, entered with
    | _, .ok _ => makeWays verbose ways
    | some (.error e), .error (.os .noEntry) => do
      notMade way (reasonOf e)
      pure false
    | _, .error e => do
      notMade way (reasonOf e)
      pure false

/-- The paths to the components that a path leads through, without the last one. -/
def waysThrough (path : String) : List String := (waysTo path).dropLast

/-- Make directories. -/
def mkdir : Tool := .ofTask fun args => do
  let g ← given mkdirChoices args
  if g.operands.isEmpty then misuse 1 "missing operand"
  if (g.value? 'c').any (!·.isEmpty) then
    remark "warning: ignoring --context; it requires an SELinux/SMACK-enabled kernel"
  let change ← match g.value? 'm' with
    | none => pure none
    | some text => do
      match ← modeOf text with
      | some change => pure (some change)
      | none => die 1 ("invalid mode " ++ cited text)
  g.operands.forM fun path => do
    let ready ← if g.has 'p' then makeWays (g.has 'v') (waysThrough path) else pure true
    if ready then
      match ← onFiles (Disk.makeDir (pathOf path)) with
      | .ok () => do
        match change with
        | some change =>
          let _ ← onFiles (Disk.setMode (pathOf path) fun mode =>
            change true (0o777 ||| (mode &&& 0o6000)))
        | none => pure ()
        sayMade (g.has 'v') path
      | .error e =>
        if g.has 'p' && e != .os .noEntry && isDirectory (← entryAt path) then pure ()
        else notMade path (reasonOf e)

/-! ## Times -/

/-- The options of `touch`. -/
def touchChoices : Choices where
  letters := "acd:fhmr:t:"
  words := [("time:", 'x'), ("no-create", 'c'), ("date", 'd'), ("reference", 'r'),
    ("no-dereference", 'h')]

/-- The two digits of a number, from a place on. -/
def twoDigitsAt (cs : List Char) (i : Nat) : Nat :=
  ((String.ofList ((cs.drop i).take 2)).toNat?).getD 100

/-- The time that digits name: month, day, hour and minute, perhaps behind the year and in front of
the seconds. -/
def stampOf? (now : Int) (text : String) : Option Int := do
  let cs := text.toList
  let ds := cs.takeWhile (· != '.')
  let seconds ← match cs.drop ds.length with
    | [] => some 0
    | ['.', a, b] => if a.isDigit && b.isDigit then some (twoDigitsAt [a, b] 0) else none
    | _ => none
  let year ← match ds.length with
    | 8 => some (Moment.ofTime now).date.year
    | 10 =>
      let n := twoDigitsAt ds 0
      some (if n < 69 then 2000 + n else 1900 + n : Int)
    | 12 => some (twoDigitsAt ds 0 * 100 + twoDigitsAt ds 2 : Int)
    | _ => none
  let rest := ds.drop (ds.length - 8)
  let date : Date := { year, month := twoDigitsAt rest 0, day := twoDigitsAt rest 2 }
  let hour := twoDigitsAt rest 4
  let minute := twoDigitsAt rest 6
  if ds.all Char.isDigit && date.isValid && hour < 24 && minute < 60 && seconds ≤ 60 then
    some (Moment.time { date, rest := ((hour * 60 + minute) * 60 + seconds) * 1000 })
  else none

/-- The words for the times that a file has. -/
def timeWords : List (List String × Char) :=
  [(["atime", "access", "use"], 'a'), (["mtime", "modify"], 'm')]

/-- The time that options name, if they name one. -/
def timeGiven (g : Given) : Task (Option Int) := do
  let now := (← Act.read).machine.tree.clock
  let bad {α : Type} (text : String) : Task α := die 1 ("invalid date format " ++ cited text)
  let fixed ← match g.value? 't' with
    | none => pure none
    | some text =>
      match stampOf? now text with
      | some time => pure (some time)
      | none => bad text
  if fixed.isSome && (g.has 'r' || g.has 'd') then
    misuse 1 "cannot specify times from more than one source"
  let model ← match g.value? 'r' with
    | none => pure none
    | some path =>
      match ← changedAt (!g.has 'h') path with
      | .ok time => pure (some time)
      | .error e => die 1 ("failed to get attributes of " ++ quoted path ++ ": " ++ reasonOf e)
  match g.value? 'd' with
  | none => pure (fixed.or model)
  | some text =>
    match Moment.read? (model.getD now) text with
    | some time => pure (some time)
    | none => bad text

/-- Let what lies at a path have been changed at a time. -/
def setChanged (follows : Bool) (time : Int) (path : String) : Task (Except IoError Unit) :=
  onFiles do
    let d ← Act.read
    let (loc, _) ← Act.ofExcept (if follows then d.stat (pathOf path) else d.lstat (pathOf path))
    if isFixed loc then Act.fail (.os .accessDenied)
    else Act.update fun d => { d with tree := d.tree.stamp loc time }

/-- Make files that are not there, and set when they were changed. -/
def touch : Tool := .ofTask fun args => do
  let g ← given touchChoices args
  let which ← (g.values 'x').mapM (wordOf 1 "--time" timeWords)
  let time ← timeGiven g
  if g.operands.isEmpty then misuse 1 "missing file operand"
  let changes := g.has 'm' || which.contains 'm' || !(g.has 'a' || which.contains 'a')
  g.operands.forM fun path => do
    if path ≠ "-" then
      let opened ← if g.has 'c' || g.has 'h' then pure (.ok ())
        else do pure ((← onFiles (Disk.openToWrite false (pathOf path))).map fun _ => ())
      let now := (← Act.read).machine.tree.clock
      let set ←
        if changes then setChanged (!g.has 'h') (time.getD now) path
        else do pure ((← if g.has 'h' then entryHere path else entryAt path).map fun _ => ())
      match opened, set with
      | _, .ok () => pure ()
      | .error e, .error e' =>
        if e = .os .isDirectory then warn ("setting times of " ++ quoted path ++ ": " ++ reasonOf e')
        else warn ("cannot touch " ++ quoted path ++ ": " ++ reasonOf e)
      | .ok (), .error e =>
        if g.has 'c' && e == .os .noEntry then pure ()
        else warn ("setting times of " ++ quoted path ++ ": " ++ reasonOf e)

/-! ## Sizes -/

/-- How a size is meant. -/
inductive Sizing
  /-- As it is. -/
  | exact
  /-- As a change. -/
  | relative
  /-- As the least, or the largest, that is wanted. -/
  | least
  | largest
  /-- As a number whose multiples are wanted: the next one up, or down. -/
  | upTo
  | downTo
deriving DecidableEq

/-- The size that is wanted of a file that has another one. -/
def Sizing.apply (s : Sizing) (size : Nat) (n : Int) : Nat :=
  match s with
  | .exact => n.toNat
  | .relative => (size + n).toNat
  | .least => max size n.toNat
  | .largest => min size n.toNat
  | .upTo => (size + n.toNat - 1) / n.toNat * n.toNat
  | .downTo => size / n.toNat * n.toNat

/-- How a size is meant that a text spells, and how large it is. -/
def sizeGiven (text : String) : Task (Sizing × Int) := do
  let cs := text.toList.dropWhile isNumberBlank
  let (sizing, cs) := match cs with
    | '<' :: cs => (Sizing.largest, cs)
    | '>' :: cs => (.least, cs)
    | '/' :: cs => (.downTo, cs)
    | '%' :: cs => (.upTo, cs)
    | cs => (.exact, cs)
  let cs := cs.dropWhile isNumberBlank
  let signed := cs.head? == some '+' || cs.head? == some '-'
  if signed && sizing ≠ .exact then misuse 1 "multiple relative modifiers specified"
  let sizing := if signed then .relative else sizing
  let digits := String.ofList (if signed then cs.drop 1 else cs)
  let refused {α : Type} (reason : Option Errno) : Task α :=
    refuseNumber 1 "Invalid number" (String.ofList cs) reason
  match if signed && !(digits.toList.head?.any Char.isAlphanum) then .error .invalid
      else amount? "EgGkKmMPQRtTYZ0" digits with
  | .ok n => do
    if Nat.pow 2 63 ≤ n then refused (some .overflow)
    if n = 0 ∧ (sizing = .upTo ∨ sizing = .downTo) then die 1 "division by zero"
    pure (sizing, if cs.head? = some '-' then -n else n)
  | .error .tooLarge => refused (some .overflow)
  | .error _ => refused none

/-- The options of `truncate`. -/
def truncateChoices : Choices where
  letters := "cor:s:"
  words := [("no-create", 'c'), ("io-blocks", 'o'), ("reference", 'r'), ("size", 's')]

/-- The number of bytes in a block. -/
def blockLength : Nat := 4096

/-- Give files a size. -/
def truncate : Tool := .ofTask fun args => do
  let g ← given truncateChoices args
  let sizes ← (g.values 's').mapM sizeGiven
  match g.value? 'r', sizes.getLast? with
  | none, none => misuse 1 "you must specify either '--size' or '--reference'"
  | some _, some (.exact, _) => misuse 1 "you must specify a relative '--size' with '--reference'"
  | some _, none =>
    if g.has 'o' then misuse 1 "'--io-blocks' was specified but '--size' was not"
  | _, _ => pure ()
  if g.operands.isEmpty then misuse 1 "missing file operand"
  let model ← match g.value? 'r' with
    | none => pure none
    | some path =>
      match ← entryAt path with
      | .ok e => pure (some (entrySize e))
      | .error e => die 1 ("cannot stat " ++ quoted path ++ ": " ++ reasonOf e)
  let (sizing, n) := sizes.getLast?.getD (.exact, (model.getD 0 : Nat))
  let n : Int := if g.has 'o' then n * blockLength else n
  let sized (contents : List UInt8) : List UInt8 :=
    let size := sizing.apply (model.getD contents.length) n
    contents.take size ++ List.replicate (size - contents.length) 0
  g.operands.forM fun path => do
    let missing := match ← entryAt path with
      | .error e => e == .os .noEntry
      | .ok _ => false
    if g.has 'c' && missing then pure ()
    else match ← onFiles (Disk.openToWrite false (pathOf path)) with
      | .ok (_, .file contents _) =>
        let _ ← onFiles (Disk.write (pathOf path) (sized contents))
      | .ok _ => do
        let size := sizing.apply 0 n
        warn ("failed to truncate " ++ quoted path ++ " at " ++ toString size ++
          " bytes: Invalid argument")
      | .error e => warn ("cannot open " ++ quoted path ++ " for writing: " ++ reasonOf e)

/-! ## Fresh names -/

/-- The parts of a template: what stands in front of the last letters `X`, how many of them there
are, and what stands behind them. -/
def templateParts (template : String) : List Char × Nat × List Char :=
  let cs := template.toList.reverse
  let behind := cs.takeWhile (· != 'X')
  let rest := cs.drop behind.length
  let marks := rest.takeWhile (· == 'X')
  if rest.isEmpty then (template.toList, 0, [])
  else ((rest.drop marks.length).reverse, marks.length, behind.reverse)

/-- A name with the letters `X` of a template replaced by a number. -/
def numberedName (front : List Char) (marks : Nat) (behind : List Char) (n : Nat) : String :=
  let ds := (toString n).toList
  let letters := List.replicate (marks - ds.length) 'a' ++ ds
  String.ofList (front ++ letters.drop (letters.length - marks) ++ behind)

/-- The options of `mktemp`. -/
def mktempChoices : Choices where
  letters := "dp:qtuV"
  words := [("directory", 'd'), ("quiet", 'q'), ("dry-run", 'u'), ("suffix:", 's'),
    ("tmpdir::", 'D')]

/-- Make a file or a directory with a fresh name. -/
def mktemp : Tool := .ofTask fun args => do
  let g ← given mktempChoices args
  let refused {α : Type} (message : String) : Task α := do
    if g.has 'q' then quit 1 else die 1 message
  match g.operands with
  | _ :: _ :: _ => if g.has 'q' then quit 1 else misuse 1 "too many templates"
  | _ => pure ()
  let template := g.operands.headD "tmp.XXXXXXXXXX"
  if (g.value? 's').isSome && !template.endsWith "X" then
    refused ("with --suffix, template " ++ cited template ++ " must end in X")
  let whole := template ++ (g.value? 's').getD ""
  let (front, marks, behind) := if g.has 's' then
      let (front, marks, _) := templateParts template
      (front, marks, ((g.value? 's').getD "").toList)
    else templateParts template
  if behind.contains '/' then
    refused ("invalid suffix " ++ cited (String.ofList behind) ++ ", contains directory separator")
  if marks < 3 then refused ("too few X's in template " ++ cited whole)
  let usual := ((← Act.read).process.value? "TMPDIR").filter (!·.isEmpty)
  let asked := ((g.options.filter fun o => o.1 == 'p' || o.1 == 'D').getLast?.map (·.2)).filter
    (!·.isEmpty)
  let dir : Option String ←
    if g.has 't' then
      if template.toList.contains '/' then
        refused ("invalid template, " ++ cited whole ++ ", contains directory separator")
      else pure (some ((usual.or asked).getD "/tmp"))
    else if g.operands.isEmpty || g.has 'p' || g.has 'D' then
      if template.startsWith "/" then
        refused ("invalid template, " ++ cited whole ++ "; with --tmpdir, it may not be absolute")
      else pure (some ((asked.or usual).getD "/tmp"))
    else pure none
  let placed (text : String) : String := (dir.map (inside · text)).getD text
  let d ← files
  let nameOf (n : Nat) : String := placed (numberedName front marks behind n)
  let free (n : Nat) : Bool := !(d.lstat (pathOf (nameOf n))).toOption.isSome
  let name := nameOf (((List.range 1000).find? free).getD 0)
  let made ← if g.has 'u' then pure (.ok ())
    else if g.has 'd' then onFiles (Disk.makeDirWith Disk.ownMode (pathOf name))
    else onFiles (Disk.makeEntry (pathOf name) (.file [] 0o600))
  match made with
  | .ok () => say (name ++ "\n")
  | .error e =>
    refused ("failed to create " ++ (if g.has 'd' then "directory" else "file") ++
      " via template " ++ cited (placed whole) ++ ": " ++ reasonOf e)

end AslBuild.Tools
