import AslBuild.Tools.Copy.Entry
set_option autoImplicit false

/-!
# The tools that copy and move files

## Main definitions

* `AslBuild.Tools.cp` — copy files.
* `AslBuild.Tools.mv` — move files.
-/

namespace AslBuild.Tools

open FileSystem Host Text

/-! ## The options of copying -/

/-- The options of `cp`. -/
def cpChoices : Choices where
  letters := "abdfHilLnprst:uvxPRS:TZ"
  words := [("archive", 'a'), ("attributes-only", 'A'), ("backup::", 'b'), ("copy-contents", 'C'),
    ("debug", 'D'), ("dereference", 'L'), ("force", 'f'), ("interactive", 'i'), ("link", 'l'),
    ("no-clobber", 'n'), ("no-dereference", 'P'), ("no-preserve:", 'N'),
    ("no-target-directory", 'T'), ("one-file-system", 'x'), ("parents", 'Q'), ("path", 'Q'),
    ("preserve::", 'p'), ("recursive", 'R'), ("remove-destination", 'M'), ("sparse:", 'X'),
    ("reflink::", 'K'), ("strip-trailing-slashes", 'I'), ("suffix", 'S'), ("symbolic-link", 's'),
    ("target-directory", 't'), ("update::", 'u'), ("verbose", 'v'), ("context::", 'Z')]

/-- What can be copied of a file besides its contents. -/
inductive FileAttribute
  | mode
  | times
  | owner
  | links
  /-- A label of the system, of which there are none. -/
  | label
  /-- Anything else that is said about a file. -/
  | more
  | all
deriving DecidableEq

/-- The words for what can be copied of a file. -/
def attributeWords : List (List String × FileAttribute) :=
  [(["mode"], .mode), (["timestamps"], .times), (["ownership"], .owner), (["links"], .links),
    (["context"], .label), (["xattr"], .more), (["all"], .all)]

/-- A plan that keeps an attribute, or does not. -/
def CopyPlan.withAttribute (plan : CopyPlan) (keeps : Bool) (a : FileAttribute) :
    Task CopyPlan := do
  match a with
  | .mode => pure { plan with keepsMode := keeps, usualMode := !keeps }
  | .times => pure { plan with keepsTimes := keeps }
  | .links => pure { plan with keepsLinks := keeps }
  | .all =>
    pure { plan with keepsMode := keeps, usualMode := !keeps, keepsTimes := keeps, keepsLinks := keeps }
  | .label =>
    if keeps then die 1 "cannot preserve security context without an SELinux-enabled kernel"
    else pure plan
  | .owner | .more => pure plan

/-- A plan that keeps some attributes, or does not. -/
def CopyPlan.withAttributes (plan : CopyPlan) (keeps : Bool) (option text : String) :
    Task CopyPlan :=
  (text.splitOn ",").foldlM (fun plan word => do
    plan.withAttribute keeps (← wordOf 1 option attributeWords word)) plan

/-- The words for whether files are copied with holes in them. -/
def sparseWords : List (List String × Nat) := [(["never"], 0), (["auto"], 1), (["always"], 2)]

/-- The words for whether copies share what they hold. -/
def sharingWords : List (List String × Nat) := [(["auto"], 1), (["always"], 2), (["never"], 0)]

/-- A plan after one more option. -/
def CopyPlan.afterOption (plan : CopyPlan) (option : Char × String) : Task CopyPlan := do
  let (letter, text) := option
  match letter with
  | 'a' =>
    pure { plan with
      following := .never, descends := true, keepsMode := true, keepsTimes := true
      keepsLinks := true }
  | 'A' => pure { plan with product := .attributes }
  | 'd' => pure { plan with following := .never, keepsLinks := true }
  | 'D' => pure { plan with verbose := true, explains := true }
  | 'f' =>
    pure { plan with clearing := if plan.clearing = .first then .first else .ifNeeded }
  | 'M' => pure { plan with clearing := .first }
  | 'i' => pure { plan with clash := .ask }
  | 'n' => do
    remark ("warning: behavior of -n is non-portable and may change in future; " ++
      "use --update=none instead")
    pure { plan with clash := .skip }
  | 'N' => plan.withAttributes false "--no-preserve" text
  | 'p' =>
    if text.isEmpty then pure { plan with keepsMode := true, keepsTimes := true }
    else plan.withAttributes true "--preserve" text
  | 'r' | 'R' => pure { plan with descends := true }
  | 'u' => plan.updated text
  | 'v' => pure { plan with verbose := true }
  | 'X' => do
    let _ ← wordOf 1 "--sparse" sparseWords text
    pure plan
  | 'K' => do
    if !text.isEmpty then
      let _ ← wordOf 1 "--reflink" sharingWords text
    pure plan
  | 'Z' => do
    if !text.isEmpty then
      remark "warning: ignoring --context; it requires an SELinux-enabled kernel"
    pure plan
  | _ => pure plan

/-- The plan that options of `cp` ask for. -/
def copyPlanOf (g : Given) : Task CopyPlan := do
  let plan ← g.options.foldlM CopyPlan.afterOption {}
  checkTarget g
  if g.has 'l' && g.has 's' then misuse 1 "cannot make both hard and symbolic links"
  let shares := (g.value? 'K').any fun w => w.isEmpty || "always".startsWith w
  if shares && (g.value? 'X').any (· != "auto") then
    misuse 1 "--reflink can be used only with --sparse=auto"
  let keeping ← keepingOf g
  let following : LinkRule := match g.last? ['H', 'L', 'P', 'a', 'd'] with
    | some 'H' => .named
    | some 'L' => .always
    | some _ => .never
    | none => if plan.descends && !g.has 'l' then .never else .always
  let throughLinks := ((← Act.read).process.value? "POSIXLY_CORRECT").isSome
  pure { plan with
    keeping, following, throughLinks
    product := if g.has 'l' then .hardLink else if g.has 's' then .symbolicLink else plan.product
    reads := !plan.descends || g.has 'C'
    newerOnly := plan.newerOnly && plan.clash != .skip }

/-! ## Copying with the directories above -/

/-- A directory that was made for a copy, or that lies above one. -/
structure Above where
  /-- The path of the directory. -/
  path : String
  /-- What it is a copy of. -/
  model : Placed
  /-- The mode that it gets in the end, if that is not the one of its model. -/
  mode : Option Nat

/-- The path of a copy that keeps all of its path. -/
def placeBelow (dir path : String) : String :=
  if path.startsWith "/" then (if dir.endsWith "/" then (dir.dropEnd 1).toString else dir) ++ path
  else inside dir path

/-- Make the directories in another one through which a path leads, one after the other. There is
nothing if that failed. -/
def makeAbove (plan : CopyPlan) (dir : String) : List String → List Above →
    Task (Option (List Above))
  | [], made => pure (some made)
  | way :: ways, made => do
    let path := placeBelow dir way
    let there ← entryAt path
    let refuse (message : String) : Task (Option (List Above)) := do
      warn message
      pure none
    let isNew := there.toOption.isNone
    if !isNew && !isDirectory there then
      refuse (quoted path ++ " exists but is not a directory")
    else if !isNew && !plan.keepsMode && !plan.keepsTimes then makeAbove plan dir ways made
    else
      match ← placedAt true way with
      | .error e => refuse ("failed to get attributes of " ++ quoted way ++ ": " ++ reasonOf e)
      | .ok model =>
        if !isFolder model then
          refuse ("failed to get attributes of " ++ quoted way ++ ": Not a directory")
        else if !isNew then makeAbove plan dir ways (⟨path, model, none⟩ :: made)
        else
          let mode := if plan.usualMode then 0o777 else entryMode model.2 &&& 0o1777
          match ← onFiles (Disk.makeDirWith mode (pathOf path)) with
          | .error e => refuse ("cannot make directory " ++ quoted path ++ ": " ++ reasonOf e)
          | .ok () => do
            if plan.verbose then say (way ++ " -> " ++ path ++ "\n")
            let final := (← entryAt path).toOption.map entryMode
            let _ ← onFiles (Disk.setMode (pathOf path) (· ||| 0o700))
            makeAbove plan dir ways (⟨path, model, final⟩ :: made)

/-- Give directories that were made for a copy their attributes. -/
def finishAbove (plan : CopyPlan) (a : Above) : Task Unit := do
  let plan := { plan with usualMode := false }
  setAttributes plan a.path a.model true
  match a.mode with
  | some mode =>
    if !plan.keepsMode then
      let _ ← onFiles (Disk.setMode (pathOf a.path) fun _ => mode)
  | none => pure ()

/-- Copy what lies at a path into a directory, together with the directories above it. -/
def copyWithAbove (plan : CopyPlan) (dir source : String) : Copying Unit := do
  let path := withoutSlashes source
  let target := placeBelow dir path
  let place := dirName target
  let made ← match ← (entryAt place : Task _) with
    | .ok (.dir _) => pure (some [])
    | .ok _ => do
      warn (quoted place ++ " exists but is not a directory")
      pure none
    | .error _ => (makeAbove plan dir (waysThrough path) [] : Task _)
  match made with
  | none => pure ()
  | some made => do
    let _ ← copyNamed plan source target
    made.forM fun a => (finishAbove plan a : Task Unit)

/-! ## Copying -/

/-- Copy files. -/
def cp : Tool := .ofTask fun args => do
  let g ← given cpChoices args
  let plan ← copyPlanOf g
  let strip (path : String) : String := if g.has 'I' then withoutSlashes path else path
  let task : Copying Unit ← match ← destinationOf g refuseTarget with
    | .into dir sources => do
      let plan := { plan with several := 1 < sources.length }
      pure (sources.forM fun source => do
        let source := strip source
        if g.has 'Q' then copyWithAbove plan dir source
        else
          let _ ← copyNamed plan source (placeIn dir source))
    | .at source target => do
      if g.has 'Q' then misuse 1 "with --parents, the destination must be a directory"
      let isFile := match ← entryAt target with
        | .ok (.file ..) => true
        | _ => false
      match plan.keeping.filter fun _ => g.has 'f' && source == target && isFile with
      | some keeping => do
        let kept ← keeping.path target
        pure do
          let _ ← copyNamed { plan with keeping := none } source kept
      | none =>
        pure do
          let _ ← copyNamed plan source target
  let _ ← task.run {}

/-! ## Moving -/

/-- The options of `mv`. -/
def mvChoices : Choices where
  letters := "bfint:uvS:TZ"
  words := [("backup::", 'b'), ("context", 'Z'), ("debug", 'D'), ("force", 'f'),
    ("interactive", 'i'), ("no-clobber", 'n'), ("no-copy", 'C'), ("no-target-directory", 'T'),
    ("strip-trailing-slashes", 'I'), ("suffix", 'S'), ("target-directory", 't'), ("update::", 'u'),
    ("verbose", 'v')]

/-- The plan that options of `mv` ask for. -/
def movePlanOf (g : Given) : Task CopyPlan := do
  let add (plan : CopyPlan) (option : Char × String) : Task CopyPlan :=
    match option.1 with
    | 'f' => pure { plan with clash := .replace }
    | 'i' => pure { plan with clash := .ask }
    | 'n' => pure { plan with clash := .refuse }
    | 'D' => pure { plan with verbose := true, explains := true }
    | 'v' => pure { plan with verbose := true }
    | 'u' => plan.updated option.2
    | _ => pure plan
  let plan ← g.options.foldlM add { moves := true, following := .never, descends := true }
  checkTarget g
  checkOperands g
  pure plan

/-- Move what lies at a path to one at which there is nothing. -/
def renameFresh (source target : String) : Task (Except IoError Unit) := do
  let d ← files
  let taken := match d.slot (pathOf source), d.slot (pathOf target) with
    | .ok (dir, .name text _), .ok (dir', .name text' _) =>
      (d.tree.get? (dir ++ [text])).isSome && (d.tree.get? (dir' ++ [text'])).isSome
    | .ok (dir, .name text _), .ok _ => (d.tree.get? (dir ++ [text])).isSome
    | _, _ => false
  if taken then pure (.error (.os .alreadyExists))
  else onMachine fun p => moveEntry p (pathOf source) (pathOf target)

/-- What is wrong with the target of a move, rather than with the source. -/
def targetTroubles : List Errno := [.alreadyExists, .isDirectory, .noSpace, .notEmpty]

/-- Complain that something cannot be moved. -/
def notMoved (source target : String) (e : IoError) : Task Unit := do
  if e = .os .invalidArgument then
    warn ("cannot move " ++ quoted source ++ " to a subdirectory of itself, " ++ quoted target)
  else if targetTroubles.any fun errno => e == .os errno then
    warn ("cannot overwrite " ++ quoted target ++ ": " ++ reasonOf e)
  else warn ("cannot move " ++ quoted source ++ " to " ++ quoted target ++ ": " ++ reasonOf e)

/-- Move what lies at a path. -/
def movePath (plan : CopyPlan) (source target : String) : Copying Unit := do
  let moved (kept : Option String) : Copying Unit := do
    if plan.verbose then sayCopied "renamed " source target kept
    noteMade plan true target
  match ← (renameFresh source target : Task _) with
  | .ok () => moved none
  | .error e => do
    if e = .os .alreadyExists ∧ (plan.clash = .refuse ∨ plan.clash = .skip) then
      let _ ← (leave plan target (if plan.clash = .skip then .fine else .failed) : Task Room)
    else match ← (placedAt false source : Task _) with
      | .error e => warn ("cannot stat " ++ quoted source ++ ": " ++ reasonOf e)
      | .ok src => do
        match ← (makeRoom plan (← get).made true source target src : Task _) with
        | .closed _ => pure ()
        | .free none none => notMoved source target e
        | .free _ kept => do
          match ← (onMachine fun p => moveEntry p (pathOf source) (pathOf target) :
              Task (Except IoError Unit)) with
          | .ok () => moved kept
          | .error e => notMoved source target e

/-- Move files. -/
def mv : Tool := .ofTask fun args => do
  let g ← given mvChoices args
  let plan ← movePlanOf g
  let strip (path : String) : String := if g.has 'I' then withoutSlashes path else path
  let checked : Task CopyPlan := do
    let newerOnly := plan.newerOnly && plan.clash != .refuse
    if g.has 'b' || g.has 'S' then
      if plan.clash = .refuse || plan.clash = .skip then
        misuse 1 "options --backup and --no-clobber are mutually exclusive"
    pure { plan with keeping := (← keepingOf g), newerOnly }
  match g.value? 't', g.operands with
  | none, [source, target] =>
    if !g.has 'T' then
      match ← renameFresh source target with
      | .ok () => do
        let plan ← checked
        if plan.verbose then sayCopied "renamed " source target none
        return
      | .error _ => pure ()
  | _, _ => pure ()
  let destination ← destinationOf g refuseTarget
  let plan ← checked
  let task : Copying Unit := match destination with
    | .into dir sources =>
      let plan := { plan with several := 1 < sources.length }
      sources.forM fun source =>
        let source := strip source
        movePath plan source (inside dir (lastName source))
    | .at source target => movePath plan (strip source) target
  let _ ← task.run {}

end AslBuild.Tools
