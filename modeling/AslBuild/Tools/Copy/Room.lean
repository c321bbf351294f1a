import AslBuild.Tools.Copy.Plan
import AslBuild.Tools.Names
set_option autoImplicit false

/-!
# Room for copies

What lies in the place of a copy may be the very thing that is copied, may have to stay, or may have
to be kept under another name.

## Main definitions

* `AslBuild.Tools.Meeting`, `AslBuild.Tools.meeting` — whether a file may take the place of another.
* `AslBuild.Tools.Room`, `AslBuild.Tools.makeRoom` — what comes of making room for a copy.
-/

namespace AslBuild.Tools

open FileSystem Host Text

/-- Something with the location at which it lies. -/
abbrev Placed : Type := Location × Entry

/-- The mode of what is read without lying anywhere. -/
def streamMode : Nat := 0o600

/-- What lies at a path, with a link at its end followed or not. An open file of the process is a
file without a place if it does not lie anywhere. -/
def placedAt (follows : Bool) (path : String) : Task (Except IoError Placed) := do
  let desk ← Act.read
  let d ← files
  match if follows then openedAt? desk.machine desk.process path else none with
  | some (.file loc) =>
    match d.tree.get? loc with
    | some e => pure (.ok (loc, e))
    | none => pure (.error (.os .noEntry))
  | some _ => pure (.ok (["dev", lastName path], .file [] streamMode))
  | none => pure (if follows then d.stat (pathOf path) else d.lstat (pathOf path))

/-- Whether something is a link. -/
def isLink (x : Placed) : Bool :=
  match x.2 with
  | .link _ => true
  | _ => false

/-- Whether something is a directory. -/
def isFolder (x : Placed) : Bool := isDirectory (.ok x.2)

/-- Whether something is a file. -/
def isPlainFile (x : Placed) : Bool :=
  match x.2 with
  | .file .. => true
  | _ => false

/-- The location of the name at the end of a path. -/
def slotOf? (d : Disk) (path : String) : Option Location :=
  match d.slot (pathOf path) with
  | .ok (dir, .name text _) => some (dir ++ [text])
  | _ => none

/-! ## Meeting -/

/-- What it means that something lies in the place of a copy. -/
inductive Meeting
  /-- It is what is copied, and that is a failure. -/
  | same
  /-- It is what the copy would be. -/
  | done
  /-- It may give way. -/
  | apart
deriving DecidableEq

/-- Whether two paths end in the same name in the same directory. -/
def isSameName (d : Disk) (a b : String) : Bool :=
  match slotOf? d a, slotOf? d b with
  | some x, some y => x == y
  | _, _ => false

/-- Whether a source may take the place of a target, where both are looked at without a link at their
ends being followed. -/
def meetingOfNames (plan : CopyPlan) (d : Disk) (source target : String) (src s t : Placed) :
    Meeting :=
  let one (a b : Placed) : Bool := isOneFile d.tree a.1 b.1
  let sameLink := one s t
  let names := entryLinks d.tree t.1 t.2
  let clears := plan.moves || plan.clearing = .first
  if plan.keeping.isSome then
    if sameLink then if isSameName d source target then .same else .apart
    else if !plan.moves && plan.following != .never && isLink s && !isLink t then .same
    else .apart
  else if clears && isLink t then .apart
  else if clears && sameLink && 1 < names && !isSameName d source target then
    if plan.moves then .same else .apart
  else if !isLink s && !isLink t && !sameLink then .apart
  else if plan.moves && isLink src && 1 < names then
    match canonical d .all true source with
    | .ok loc => if slotOf? d target == some loc then .same else .apart
    | .error _ => .same
  else if plan.product = .symbolicLink && isLink t then .apart
  else if plan.following = .never then
    let real (x : Placed) (path : String) : Option Placed :=
      if isLink x then (d.stat (pathOf path)).toOption else some x
    match real s source, real t target with
    | some a, some b => if one a b then .same else .apart
    | _, _ => .apart
  else .same

/-- Whether a source may take the place of what lies at a target. -/
def meeting (plan : CopyPlan) (d : Disk) (source target : String) (src dst : Placed) : Meeting :=
  let same := isOneFile d.tree src.1 dst.1
  if same && plan.product = .hardLink then .done
  else if plan.following = .never then
    if isLink src && isLink dst then
      if isSameName d source target then .same
      else if plan.keeping.isSome || !same then .apart
      else if plan.moves then .same
      else .done
    else meetingOfNames plan d source target src src dst
  else if !same then .apart
  else
    match d.lstat (pathOf source), d.lstat (pathOf target) with
    | .ok s, .ok t =>
      if isLink s && isLink t && plan.clearing = .first then .apart
      else meetingOfNames plan d source target src s t
    | _, _ => .apart

/-! ## Making room -/

/-- What comes of a step of copying. -/
inductive Outcome
  | fine
  | failed
  /-- A directory was to be copied into itself. -/
  | intoItself
deriving DecidableEq

/-- What comes of making room for a copy. -/
inductive Room
  /-- Nothing more is to be done. -/
  | closed (outcome : Outcome)
  /-- The copy can be made, in the place of what lies there, which may have been kept. -/
  | free (there : Option Placed) (kept : Option String)

/-- Say that something was copied or moved. -/
def sayCopied (what source target : String) (kept : Option String) : Task Unit :=
  say (what ++ quoted source ++ " -> " ++ quoted target ++ (match kept with
    | some kept => " (backup: " ++ quoted kept ++ ")"
    | none => "") ++ "\n")

/-- Say that something was removed. -/
def sayGone (plan : CopyPlan) (path : String) : Task Unit := do
  if plan.verbose then say ("removed " ++ quoted path ++ "\n")

/-- Ask whether what lies at a target may be replaced. -/
def mayReplace (plan : CopyPlan) (target : String) (dst : Placed) : Task Bool := do
  let mode := entryMode dst.2
  if isLink dst || mayWrite mode then ask ("overwrite " ++ quoted target)
  else
    let ds := String.ofList (Nat.toDigits 8 (mode &&& 0o7777))
    let digits := String.ofList (List.replicate (4 - ds.length) '0') ++ ds
    let letters := ((Permission.listed '-' mode).drop 1).toString
    if plan.moves || plan.clearing != .never then
      ask ("replace " ++ quoted target ++ ", overriding mode " ++ digits ++ " (" ++ letters ++ ")")
    else
      ask ("unwritable " ++ quoted target ++ " (mode " ++ digits ++ ", " ++ letters ++
        "); try anyway")

/-- Whether keeping what lies at a target would put it over the source. -/
def wouldCover (keeping : Keeping) (source target : String) (src : Placed) : Task Bool := do
  if keeping.rule = .numbered || lastName source ≠ lastName target ++ keeping.suffix then
    pure false
  else
    let d ← files
    match d.stat (pathOf (withoutSlashes target ++ keeping.suffix)) with
    | .ok x => pure (isOneFile d.tree x.1 src.1)
    | .error _ => pure false

/-- Whether a target stays because the source is not newer. -/
def isNotNewer (plan : CopyPlan) (src dst : Placed) : Task Bool := do
  let t := (← files).tree
  pure (plan.newerOnly && !isFolder src && t.changed src.1 ≤ t.changed dst.1)

/-- Whether somebody or something wants that a target stays. -/
def isDeclined (plan : CopyPlan) (target : String) (src dst : Placed) : Task Bool := do
  if !plan.moves && isFolder src then pure false
  else match plan.clash with
    | .skip | .refuse => pure true
    | .ask => do pure (!(← mayReplace plan target dst))
    | .replace => pure false

/-- Let a target stay. -/
def leave (plan : CopyPlan) (target : String) (outcome : Outcome) : Task Room := do
  if plan.clash = .refuse then warn ("not replacing " ++ quoted target)
  else if plan.explains then say ("skipped " ++ quoted target ++ "\n")
  if outcome = .failed then mark 1
  pure (.closed outcome)

/-- Make room at a target where something lies. `made` are the locations of what was made before. -/
def clearPlace (plan : CopyPlan) (made : List Location) (top : Bool) (source target : String)
    (src dst : Placed) : Task Room := do
  let refuse (message : String) : Task Room := do
    warn message
    pure (.closed .failed)
  let d ← files
  let met := if plan.clash = .skip || plan.clash = .refuse then Meeting.apart
    else meeting plan d source target src dst
  if met = .same then refuse (quoted source ++ " and " ++ quoted target ++ " are the same file")
  else if ← isNotNewer plan src dst then leave { plan with clash := .replace } target .fine
  else if ← isDeclined plan target src dst then
    leave plan target (if plan.clash = .skip then .fine else .failed)
  else if met = .done then pure (.closed .fine)
  else if !isFolder dst && isFolder src && !(plan.moves && plan.keeping.isSome) then
    refuse ("cannot overwrite non-directory " ++ quoted target ++ " with directory " ++
      quoted source)
  else if !isFolder dst && top && plan.keeping.map Keeping.rule != some .numbered &&
      (slotOf? d target).any made.contains then
    refuse ("will not overwrite just-created " ++ quoted target ++ " with " ++ quoted source)
  else if !isFolder src && isFolder dst && !(plan.moves && plan.keeping.isSome) then
    refuse ("cannot overwrite directory " ++ quoted target ++ " with non-directory")
  else
    let isDots := lastName source = "." || lastName source = ".."
    match plan.keeping.filter fun _ => !isDots && (plan.moves || !isFolder dst) with
    | some keeping => do
      if ← wouldCover keeping source target src then
        refuse ("backing up " ++ quoted target ++ " might destroy source;  " ++ quoted source ++
          (if plan.moves then " not moved" else " not copied"))
      else match ← keeping.keep target with
        | .ok kept => pure (.free none (some kept))
        | .error (.os .noEntry) => pure (.free none none)
        | .error e => refuse ("cannot backup " ++ quoted target ++ ": " ++ reasonOf e)
    | none =>
      let several := !isFolder dst && 1 < entryLinks d.tree dst.1 dst.2
      let gives := plan.clearing = .first || (plan.product != .attributes &&
        ((plan.keepsLinks && several) || (plan.following = .never && !isPlainFile src)))
      if !isFolder dst && !plan.moves && gives then
        match ← onFiles (Disk.unlink (pathOf target)) with
        | .ok () => do
          sayGone plan target
          pure (.free none none)
        | .error (.os .noEntry) => pure (.free none none)
        | .error e => refuse ("cannot remove " ++ quoted target ++ ": " ++ reasonOf e)
      else pure (.free (some dst) none)

/-- Make room at a target. -/
def makeRoom (plan : CopyPlan) (made : List Location) (top : Bool) (source target : String)
    (src : Placed) : Task Room := do
  let here := isFolder src || isLink src || (!isPlainFile src && !plan.reads) || plan.moves ||
    plan.product = .symbolicLink || plan.product = .hardLink || plan.keeping.isSome ||
    plan.clearing = .first
  match ← placedAt (!here) target with
  | .ok dst => clearPlace plan made top source target src dst
  | .error (.os .noEntry) => pure (.free none none)
  | .error e => do
    match ← placedAt false target with
    | .ok link =>
      if e = .os .tooManyLinks ∧ plan.clearing = .ifNeeded then return .free (some link) none
    | .error _ => pure ()
    warn ("cannot stat " ++ quoted target ++ ": " ++ reasonOf e)
    pure (.closed .failed)

end AslBuild.Tools
