import AslBuild.Tools.Copy.Entry
set_option autoImplicit false

/-!
# Installing files

A file that is installed takes the place of what lies there, and gets a mode of its own.

## Main definitions

* `AslBuild.Tools.install` — copy files and give them a mode, or make directories.
-/

namespace AslBuild.Tools

open FileSystem Host Text

/-- The options of `install`. -/
def installChoices : Choices where
  letters := "bcCsDdg:m:o:pt:TvS:Z"
  words := [("backup::", 'b'), ("compare", 'C'), ("context::", 'Z'), ("debug", 'x'),
    ("directory", 'd'), ("group", 'g'), ("mode", 'm'), ("no-target-directory", 'T'), ("owner", 'o'),
    ("preserve-timestamps", 'p'), ("preserve-context", 'P'), ("strip", 's'),
    ("strip-program:", 'r'), ("suffix", 'S'), ("target-directory", 't'), ("verbose", 'v')]

/-- How files are installed. -/
structure Installation where
  /-- How they are copied. -/
  plan : CopyPlan
  /-- Their mode. -/
  mode : Nat
  /-- The mode of a directory that is installed, by the one that it has. -/
  folderMode : Nat → Nat
  /-- Whether the owner or the group is to be another one. -/
  changesOwner : Bool
  /-- Whether files that are the same already stay as they are. -/
  compares : Bool
  /-- Whether the directories above are made. -/
  makesAbove : Bool

/-- The mode that directories have above what is installed. -/
def aboveMode : Nat := 0o755

/-- Whether the name of a user or of a group means somebody else than the user. -/
def isSomeoneElse (what : String) (name : Option String) : Task Bool := do
  match name with
  | none => pure false
  | some name =>
    match digits? name with
    | some n => pure (n ≠ userNumber)
    | none =>
      if name = userName then pure false
      else if ["root", "daemon", "bin", "sys", "nobody", "nogroup", "adm"].contains name then
        pure true
      else die 1 ("invalid " ++ what ++ " " ++ quoted name)

/-- Make the directories that some paths name, unless they are there. Whether that worked is
given. -/
def installAbove (verbose : Bool) : List String → Task Bool
  | [] => pure true
  | way :: ways => do
    match ← entryAt way with
    | .ok _ => installAbove verbose ways
    | .error _ => do
      match ← onFiles (Disk.makeDirWith aboveMode (pathOf way)) with
      | .error e => do
        warn ("cannot create directory " ++ quoted way ++ ": " ++ reasonOf e)
        pure false
      | .ok () => do
        let _ ← onFiles (Disk.setMode (pathOf way) fun _ => aboveMode)
        if verbose then
          say ((← Act.read).name ++ ": creating directory " ++ quoted way ++ "\n")
        installAbove verbose ways

/-- Make a directory with those above it. -/
def installFolder (i : Installation) (path : String) : Task Unit := do
  if ← installAbove i.plan.verbose (waysThrough path) then
    let set : Task Unit := do
      let _ ← onFiles (Disk.setMode (pathOf path) i.folderMode)
      if i.changesOwner then
        warn ("cannot change owner and permissions of " ++ quoted path ++
          ": Operation not permitted")
    match ← onFiles (Disk.makeDirWith dirMode (pathOf path)) with
    | .ok () => do
      if i.plan.verbose then
        say ((← Act.read).name ++ ": creating directory " ++ quoted path ++ "\n")
      set
    | .error e => do
      if isDirectory (← entryAt path) then set
      else warn ("cannot create directory " ++ quoted path ++ ": " ++ reasonOf e)

/-- Whether a file is installed already. -/
def isInstalled (i : Installation) (source target : String) : Task Bool := do
  match ← entryHere source, ← entryHere target with
  | .ok (.file a m), .ok (.file b mode) => pure (a == b && mode == i.mode && m &&& 0o7000 == 0)
  | _, _ => pure false

/-- Install a file. -/
def installFile (i : Installation) (source target : String) : Copying Unit := do
  let same ← (isInstalled i source target : Task Bool)
  let outcome ← if i.compares && same then pure .fine else copyNamed i.plan source target
  if outcome = .fine then
    if i.changesOwner then
      warn ("cannot change ownership of " ++ quoted target ++ ": Operation not permitted")
    else
      let _ ← (onFiles (Disk.setMode (pathOf target) fun _ => i.mode) : Task (Except IoError Unit))

/-- How files are installed as options ask for it. -/
def installationOf (g : Given) : Task Installation := do
  let change ← match g.value? 'm' with
    | none => pure none
    | some text => do
      match Permission.read? 0 text with
      | some change => pure (some change)
      | none => die 1 ("invalid mode " ++ cited text)
  let modes (isDir : Bool) (now : Nat) : Nat := match change with
    | some change => change isDir (if isDir then now &&& 0o6000 else 0)
    | none => aboveMode
  let owner ← isSomeoneElse "user" (g.value? 'o')
  let group ← isSomeoneElse "group" (g.value? 'g')
  pure {
    plan := { clearing := .first, fixedMode := some 0o600, keepsTimes := g.has 'p'
              verbose := g.has 'v' || g.has 'x' }
    mode := modes false 0
    folderMode := modes true
    changesOwner := owner || group
    compares := g.has 'C' && modes false 0 ≤ 0o777
    makesAbove := g.has 'D' }

/-- Copy files and give them a mode, or make directories. -/
def install : Tool := .ofTask fun args => do
  let g ← given installChoices args
  checkTarget g
  if g.has 'd' && g.has 's' then
    die 1 "the strip option may not be used when installing a directory"
  if g.has 'd' && g.has 't' then
    die 1 "target directory not allowed when installing a directory"
  let keeping ← keepingOf g
  if g.has 'd' then
    if g.operands.isEmpty then misuse 1 "missing file operand"
    let i ← installationOf g
    g.operands.forM (installFolder i)
  else
    let refuse (dir : String) (e : IoError) : Task Unit := do
      if !(g.has 'D' && e == .os .noEntry) then
        die 1 ("failed to access " ++ quoted dir ++ ": " ++ reasonOf e)
    let destination ← destinationOf g refuse
    let i ← installationOf g
    if g.has 'C' && i.mode > 0o777 then
      remark ("the --compare (-C) option is ignored when you specify a mode with " ++
        "non-permission bits")
    if g.has 'C' && g.has 's' then
      misuse 1 "options --compare (-C) and --strip are mutually exclusive"
    if g.has 'C' && g.has 'p' then
      misuse 1 "options --compare (-C) and --preserve-timestamps are mutually exclusive"
    let i := { i with plan := { i.plan with keeping } }
    let task : Copying Unit ← match destination with
      | .into dir sources => do
        let ready ← if i.makesAbove then installAbove i.plan.verbose (waysTo dir) else pure true
        let i := { i with plan := { i.plan with several := true } }
        pure (if ready then sources.forM fun source => installFile i source (placeIn dir source)
          else pure ())
      | .at source target => do
        let ready ← if i.makesAbove then installAbove i.plan.verbose (waysThrough target)
          else pure true
        pure (if ready then installFile i source target else pure ())
    let _ ← task.run {}

end AslBuild.Tools
