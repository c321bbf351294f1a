import AslBuild.Tools.Copy.Room
import AslBuild.Tools.Making
set_option autoImplicit false

/-!
# Copying what lies at a path

## Main definitions

* `AslBuild.Tools.CopyLog` — what was copied so far.
* `AslBuild.Tools.copyFile` — copy the contents of a file.
* `AslBuild.Tools.copyEntry` — copy what lies at a path, with all that is below it.
-/

namespace AslBuild.Tools

open FileSystem Host Text

/-- What was copied so far. -/
structure CopyLog where
  /-- The locations of what was copied, each with the path of the copy. -/
  copies : List (Location × String) := []
  /-- The locations of what the command line named to be copied. -/
  sources : List Location := []
  /-- The locations of what was made of that. -/
  made : List Location := []
  /-- Whether a directory was made for what the command line names now. -/
  hasDirectory : Bool := false
  /-- What the command line names now, and the path of its copy. -/
  leading : String × String := ("", "")

/-- A step of copying. -/
abbrev Copying : Type → Type := StateT CopyLog Task

/-- Complain, and let a step of copying fail. -/
def failing (message : String) : Task Outcome := do
  warn message
  pure .failed

/-! ## Files -/

/-- The number of the channel that a copy is written to. -/
def copyChannel : Nat := 11

/-- Open a path to write a copy to it, and give the process that has it open. -/
def openCopy (target : String) (how : Opening) : Task (Except IoError Process) := do
  let opened ← onMachine fun p => openPath p target how
  let p := (← Act.read).process
  pure (opened.map fun channel => p.setChannel copyChannel (some channel))

/-- What is told about the way in which a file was copied. -/
def explanation (bytes : List UInt8) : String :=
  "copy offload: " ++ (if bytes.isEmpty then "unknown" else "yes") ++
    ", reflink: unsupported, sparse detection: no\n"

/-- Give a copy the attributes that it is to have. -/
def setAttributes (plan : CopyPlan) (target : String) (src : Placed) (isNew : Bool) :
    Task Unit := do
  if plan.keepsTimes then
    let time := (← files).tree.changed src.1
    match ← setChanged true time target with
    | .ok () => pure ()
    | .error e => warn ("preserving times for " ++ quoted target ++ ": " ++ reasonOf e)
  let mask := (← Act.read).process.mask
  let mode? : Option Nat :=
    if plan.keepsMode then some (entryMode src.2)
    else if plan.fixedMode.isSome then plan.fixedMode
    else if plan.usualMode && (isNew || isFolder src) then
      some (masked mask (if isFolder src then dirMode else fileMode))
    else none
  match mode? with
  | some mode =>
    let _ ← onFiles (Disk.setMode (pathOf target) fun _ => mode)
  | none => pure ()

/-- Copy the contents of a file to a path where something may lie already. -/
def copyFile (plan : CopyPlan) (source target : String) (src : Placed) (there : Option Placed) :
    Task Outcome := do
  match ← textOf source with
  | .error e => failing ("cannot open " ++ quoted source ++ " for reading: " ++ reasonOf e)
  | .ok text => do
    let how : Opening := if plan.product = .attributes then .append else .write
    let notMade (e : IoError) : Task Outcome :=
      let e := if e = .os .isDirectory ∧ target.endsWith "/" then .os .notDirectory else e
      failing ("cannot create regular file " ++ quoted target ++ ": " ++ reasonOf e)
    let finish (isNew : Bool) (p : Process) : Task Outcome := do
      let bytes := if plan.product = .attributes then [] else Raw.toBytes text
      if isNew then
        let mask := p.mask
        let mode := plan.fixedMode.getD (entryMode src.2)
        let _ ← onFiles (Disk.setMode (pathOf target) fun _ => masked mask (mode &&& 0o777))
      match ← onMachine fun _ => writeTo p copyChannel bytes with
      | .error e => failing ("error writing " ++ quoted target ++ ": " ++ e.description)
      | .ok () => do
        setAttributes plan target src isNew
        if plan.explains then say (explanation bytes)
        pure .fine
    let make : Task Outcome := do
      if (← placedAt false target).toOption.any isLink && !plan.throughLinks then
        failing ("not writing through dangling symlink " ++ quoted target)
      else match ← openCopy target how with
        | .ok p => finish true p
        | .error e => notMade e
    match there with
    | none => make
    | some _ =>
      match ← openCopy target how with
      | .ok p => finish false p
      | .error e =>
        if plan.clearing != .ifNeeded then notMade e
        else match ← onFiles (Disk.unlink (pathOf target)) with
          | .ok () => do
            sayGone plan target
            make
          | .error (.os .noEntry) => make
          | .error e => failing ("cannot remove " ++ quoted target ++ ": " ++ reasonOf e)

/-! ## Links -/

/-- Make a path one more name of a file. What lies there may be replaced. -/
def nameFile (replaces : Bool) (loc : Location) (target : String) : Task (Except IoError Bool) := do
  match ← onFiles (Disk.makeAlias loc (pathOf target)) with
  | .ok () => pure (.ok false)
  | .error (.os .alreadyExists) =>
    if !replaces then pure (.error (.os .alreadyExists))
    else
      let d ← files
      if (slotOf? d target).any (isOneFile d.tree loc) then pure (.ok true)
      else match ← onFiles (Disk.unlink (pathOf target)) with
        | .ok () => do pure ((← onFiles (Disk.makeAlias loc (pathOf target))).map fun _ => true)
        | .error e => pure (.error e)
  | .error e => pure (.error e)

/-- Make a copy one more name of a file. `said` is how messages call that file. -/
def aliasFile (plan : CopyPlan) (replaces verbose : Bool) (loc : Location) (said target : String) :
    Task Outcome := do
  match ← nameFile replaces loc target with
  | .ok replaced => do
    if replaced && verbose then sayGone plan target
    pure .fine
  | .error e =>
    failing ("cannot create hard link " ++ quoted target ++ " to " ++ quoted said ++ ": " ++
      reasonOf e)

/-- Make a symbolic link. What lies there may be replaced. -/
def linkTo (replaces : Bool) (text target : String) : Task (Except IoError Unit) := do
  let make : Task (Except IoError Unit) :=
    onFiles (Disk.makeLink (pathOf target) (Raw.toText text))
  match ← make with
  | .error (.os .alreadyExists) =>
    if !replaces then pure (.error (.os .alreadyExists))
    else match ← onFiles (Disk.unlink (pathOf target)) with
      | .ok () => make
      | .error e => pure (.error e)
  | made => pure made

/-- Make a symbolic link to what is to be copied. -/
def linkToSource (plan : CopyPlan) (source target : String) : Task Outcome := do
  let d ← files
  let above := dirName target
  let isHere := above = "." || match d.locate (pathOf above) with
    | .ok loc => loc == d.cwd
    | .error _ => true
  if !source.startsWith "/" && !isHere then
    failing (quotedIfOdd target ++ ": can make relative symbolic links only in current directory")
  else match ← linkTo (plan.clearing != .never) source target with
    | .ok () => pure .fine
    | .error e =>
      failing ("cannot create symbolic link " ++ quoted target ++ " to " ++ quoted source ++ ": " ++
        reasonOf e)

/-- Copy a link as a link. -/
def copyLink (plan : CopyPlan) (text target : String) (src : Placed) (there : Option Placed) :
    Task Outcome := do
  let isThere := plan.newerOnly && match there with
    | some (_, .link other) => Raw.ofText other == text
    | _ => false
  match ← linkTo (plan.clearing != .never) text target with
  | .error e =>
    if !isThere then
      return ← failing ("cannot create symbolic link " ++ quoted target ++ ": " ++ reasonOf e)
  | .ok () => pure ()
  if plan.keepsTimes then
    let _ ← setChanged false ((← files).tree.changed src.1) target
  pure .fine

/-! ## Everything -/

/-- What became of the same file before, which is remembered together with this copy of it if a plan
asks for that. -/
def earlierCopy (plan : CopyPlan) (top : Bool) (target : String) (src : Placed) :
    Copying (Option String) := do
  let t := (← files).tree
  let log ← get
  let earlier := (log.copies.find? fun x => isOneFile t x.1 src.1).map (·.2)
  let isFolder := plan.descends && isFolder src
  let counts := if isFolder then top
    else plan.keepsLinks && (1 < entryLinks t src.1 src.2 || plan.following = .always ||
      (top && plan.following = .named))
  if counts && earlier.isNone then set { log with copies := (src.1, target) :: log.copies }
  pure (if isFolder || counts then earlier else none)

/-- Forget what is remembered about a file that could not be copied. -/
def forgetCopy (src : Placed) : Copying Unit :=
  modify fun log => { log with copies := log.copies.filter fun x => x.1 != src.1 }

/-- What was made for the command line is remembered. -/
def noteMade (plan : CopyPlan) (top : Bool) (target : String) : Copying Unit := do
  if top && plan.several then
    match slotOf? (← files) target with
    | some loc => modify fun log => { log with made := loc :: log.made }
    | none => pure ()

/-- Give up a copy, and put back what was kept. -/
def giveUp (plan : CopyPlan) (target : String) (src : Placed) (kept : Option String)
    (outcome : Outcome) : Copying Outcome := do
  forgetCopy src
  match kept with
  | none => pure ()
  | some kept => do
    match ← (onMachine fun p => moveEntry p (pathOf kept) (pathOf target) :
        Task (Except IoError Unit)) with
    | .ok () =>
      if plan.verbose then say (quoted kept ++ " -> " ++ quoted target ++ " (unbackup)\n")
    | .error e => remark ("cannot un-backup " ++ quoted target ++ ": " ++ reasonOf e)
  pure outcome

/-- Do a step for each of some names until a directory was to be copied into itself. -/
def untilInside (step : String → Copying Outcome) : List String → Copying Outcome
  | [] => pure .fine
  | name :: names => do
    match ← step name with
    | .intoItself => pure .intoItself
    | outcome => do
      let rest ← untilInside step names
      pure (if rest = .fine then outcome else rest)

/-- The names in a directory in the order in which they were made. -/
def namesAsMade (path : String) : Task (Except IoError (List String)) := do
  let d ← files
  match ← namesIn path with
  | .error e => pure (.error e)
  | .ok names =>
    match d.stat (pathOf path) with
    | .ok (loc, _) => pure (.ok ((d.tree.names loc).reverse.map Raw.ofText))
    | .error _ => pure (.ok names)

/-- Copy what is not a directory, once there is room. -/
def copyPlain (plan : CopyPlan) (source target : String) (src : Placed) (there : Option Placed) :
    Task Outcome := do
  match plan.product, src.2 with
  | .symbolicLink, _ => linkToSource plan source target
  | .hardLink, _ =>
    aliasFile plan (plan.clearing != .never || plan.clash = .ask) false src.1 source target
  | _, .link text => copyLink plan (Raw.ofText text) target src there
  | _, .file .. => copyFile plan source target src there
  | _, _ =>
    if plan.reads then copyFile plan source target src there
    else failing ("cannot create special file " ++ quoted target ++ ": Operation not permitted")

/-- Copy a directory once there is room, where `each` copies what is in it. -/
def copyFolder (plan : CopyPlan) (each : String → Copying Outcome) (source target : String)
    (src : Placed) (there : Option Placed) : Copying Outcome := do
  let mode := entryMode src.2 &&& 0o1777
  let isNew := !(there.any isFolder)
  let made ← if isNew then
      (onFiles (Disk.makeDirWith mode (pathOf target)) : Task (Except IoError Unit))
    else pure (.ok ())
  match made with
  | .error e => failing ("cannot create directory " ++ quoted target ++ ": " ++ reasonOf e)
  | .ok () => do
    let final := (← (entryAt target : Task (Except IoError Entry))).toOption.map entryMode
    if isNew then
      let _ ← (onFiles (Disk.setMode (pathOf target) (· ||| 0o700)) : Task (Except IoError Unit))
      let log ← get
      if !log.hasDirectory then
        match slotOf? (← files) target with
        | some loc => set { log with hasDirectory := true, copies := (loc, target) :: log.copies }
        | none => pure ()
      if plan.verbose then sayCopied "" source target none
    let outcome ← match ← (namesAsMade source : Task _) with
      | .error e => failing ("cannot access " ++ quoted source ++ ": " ++ reasonOf e)
      | .ok names => untilInside each names
    if isNew then
      let _ ← (onFiles (Disk.setMode (pathOf target) fun m => final.getD m) :
        Task (Except IoError Unit))
    setAttributes plan target src isNew
    pure outcome

/-- Copy what lies at a path, directories so many levels deep. `above` are the locations of the
directories that are being copied. -/
def copyEntry : Nat → CopyPlan → Bool → List Location → String → String → Copying Outcome
  | 0, _, _, _, _, _ => pure .failed
  | n + 1, plan, top, above, source, target => do
    match ← (placedAt (plan.following != .never) source : Task _) with
    | .error e => failing ("cannot stat " ++ quoted source ++ ": " ++ reasonOf e)
    | .ok src => do
      let log ← get
      let slot := slotOf? (← files) source
      if isFolder src && !plan.descends then
        return ← failing ((if plan.fixedMode.isSome then "" else "-r not specified; ") ++
          "omitting directory " ++ quoted source)
      if top && plan.several && plan.fixedMode.isNone then
        if !isFolder src && plan.keeping.isNone && slot.any log.sources.contains then
          remark ("warning: source file " ++ quoted source ++ " specified more than once")
          return .fine
        set { log with sources := slot.toList ++ log.sources }
      match ← (makeRoom plan log.made top source target src : Task _) with
      | .closed outcome => pure outcome
      | .free there kept => do
        let place := slotOf? (← files) target
        let isJustLinked := top && plan.keeping.isNone && place.any log.made.contains &&
          (← (placedAt false target : Task _)).toOption.any isLink
        if isJustLinked then
          return ← failing ("will not copy " ++ quoted source ++ " through just-created symlink " ++
            quoted target)
        if plan.verbose && !isFolder src then sayCopied "" source target kept
        match ← earlierCopy plan top target src with
        | some earlier =>
          if isFolder src then
            if isSameName (← files) source earlier then
              warn ("cannot copy a directory, " ++ quoted log.leading.1 ++ ", into itself, " ++
                quoted log.leading.2)
              return .intoItself
            if isSameName (← files) target earlier then
              remark ("warning: source directory " ++ quoted log.leading.1 ++
                " specified more than once")
              return .fine
            if plan.following = .never || (plan.following = .named && !top) then
              return ← failing ("will not create hard link " ++ quoted target ++
                " to directory " ++ quoted earlier)
          else
            match slotOf? (← files) earlier with
            | some loc => return ← aliasFile plan true true loc earlier target
            | none => pure ()
        | none => pure ()
        let outcome ←
          if isFolder src then
            if above.contains src.1 then
              failing ("cannot copy cyclic symbolic link " ++ quoted source)
            else
              copyFolder plan (fun name => copyEntry n plan.below false (src.1 :: above)
                (inside source name) (inside target name)) source target src there
          else (copyPlain plan source target src there : Task Outcome)
        if outcome = .failed && !isFolder src then giveUp plan target src kept outcome
        else do
          noteMade plan top target
          pure outcome

/-- Copy what the command line names to a path. -/
def copyNamed (plan : CopyPlan) (source target : String) : Copying Outcome := do
  modify fun log => { log with leading := (source, target), hasDirectory := false }
  copyEntry depthLimit plan true [] source target

end AslBuild.Tools
