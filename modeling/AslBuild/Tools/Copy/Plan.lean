import AslBuild.Tools.Backup
set_option autoImplicit false

/-!
# What is to be copied, and how

The last argument is where files go: a directory takes them under their names, and anything else is
replaced by the one file that is named.

## Main definitions

* `AslBuild.Tools.CopyPlan` — how files are copied, or moved.
* `AslBuild.Tools.Destination`, `AslBuild.Tools.destinationOf` — where they go.
-/

namespace AslBuild.Tools

open FileSystem Host Text

/-! ## Plans -/

/-- What happens where something lies in the place of a copy. -/
inductive Clash
  /-- It is replaced. -/
  | replace
  /-- It is replaced if somebody allows it. -/
  | ask
  /-- It stays, and nothing is said. -/
  | skip
  /-- It stays, which is a failure. -/
  | refuse
deriving DecidableEq

/-- Which links are followed to what is to be copied. -/
inductive LinkRule
  | never
  /-- Those that the command line names. -/
  | named
  | always
deriving DecidableEq

/-- What is made of a file. -/
inductive Product
  /-- A file with the same contents. -/
  | contents
  /-- A file with the same attributes only. -/
  | attributes
  /-- One more name of the same file. -/
  | hardLink
  /-- A link to the file. -/
  | symbolicLink
deriving DecidableEq

/-- When what lies in the place of a copy is removed. -/
inductive Clearing
  | never
  /-- When it cannot be opened. -/
  | ifNeeded
  /-- Before anything is made in its place. -/
  | first
deriving DecidableEq

/-- How files are copied, or moved. -/
structure CopyPlan where
  /-- Whether files are moved. -/
  moves : Bool := false
  /-- Which links are followed. -/
  following : LinkRule := .always
  /-- Whether directories are copied with what is in them. -/
  descends : Bool := false
  /-- Whether devices are copied as files with what can be read from them. -/
  reads : Bool := true
  /-- What is made of a file. -/
  product : Product := .contents
  /-- What happens where something lies already. -/
  clash : Clash := .replace
  /-- Whether only what is newer than the file in its place is copied. -/
  newerOnly : Bool := false
  /-- When what lies in the place of a copy is removed. -/
  clearing : Clearing := .never
  /-- How files are kept that are replaced. -/
  keeping : Option Keeping := none
  /-- Whether modes are copied. -/
  keepsMode : Bool := false
  /-- Whether it is copied when files were changed. -/
  keepsTimes : Bool := false
  /-- Whether names of one file are copied as names of one file. -/
  keepsLinks : Bool := false
  /-- Whether copies get the modes that new files have. -/
  usualMode : Bool := false
  /-- The mode of all copies, if they are installed. -/
  fixedMode : Option Nat := none
  /-- Whether files are made through links that lead nowhere. -/
  throughLinks : Bool := false
  /-- Whether it is told what is done. -/
  verbose : Bool := false
  /-- Whether it is told how it is done. -/
  explains : Bool := false
  /-- Whether several files go into one directory. -/
  several : Bool := false

/-- The plan for what is in a directory that is copied. -/
def CopyPlan.below (plan : CopyPlan) : CopyPlan :=
  { plan with following := if plan.following = .named then .never else plan.following }

/-- The words for when a file is newer than the one in its place, with what happens then. -/
def updateWords : List (List String × (Bool × Clash)) :=
  [(["all"], (false, .replace)), (["none"], (false, .skip)), (["older"], (true, .replace))]

/-- A plan after an option that asks for newer files only. -/
def CopyPlan.updated (plan : CopyPlan) (word : String) : Task CopyPlan := do
  if word.isEmpty then pure { plan with newerOnly := true }
  else if plan.clash = .refuse then pure plan
  else
    let (newerOnly, clash) ← wordOf 1 "--update" updateWords word
    pure { plan with newerOnly, clash }

/-! ## Destinations -/

/-- Where files go. -/
inductive Destination
  /-- Into a directory. -/
  | into (dir : String) (sources : List String)
  /-- To a path. -/
  | at (source target : String)
deriving DecidableEq

/-- What a path leads to that has to be a directory. -/
def asDirectory (path : String) : Task (Except IoError Unit) := do
  match ← entryAt path with
  | .ok (.dir _) => pure (.ok ())
  | .ok _ => pure (.error (.os .notDirectory))
  | .error e => pure (.error e)

/-- Complain if there are too few operands. -/
def checkOperands (g : Given) : Task Unit := do
  match g.value? 't', g.operands with
  | _, [] => misuse 1 "missing file operand"
  | none, [source] => misuse 1 ("missing destination file operand after " ++ quoted source)
  | _, _ => pure ()

/-- Where files go. `accept` says what becomes of the directory that an option names if it is none. -/
def destinationOf (g : Given) (accept : String → IoError → Task Unit) : Task Destination := do
  checkOperands g
  if g.has 'T' then
    if g.has 't' then
      die 1 "cannot combine --target-directory (-t) and --no-target-directory (-T)"
    match g.operands with
    | [source, target] => pure (.at source target)
    | operands => misuse 1 ("extra operand " ++ quoted (operands[2]?.getD ""))
  else match g.value? 't' with
    | some dir => do
      match ← asDirectory dir with
      | .ok () => pure ()
      | .error e => accept dir e
      pure (.into dir g.operands)
    | none => do
      let place := g.operands.getLast?.getD ""
      match ← asDirectory place, g.operands with
      | .ok (), operands => pure (.into place operands.dropLast)
      | .error _, [source, target] => pure (.at source target)
      | .error e, _ => die 1 ("target " ++ quoted place ++ ": " ++ reasonOf e)

/-- Complain about a directory that an option names. -/
def refuseTarget (dir : String) (e : IoError) : Task Unit :=
  die 1 ("target directory " ++ quoted dir ++ ": " ++ reasonOf e)

/-- The path of a copy in a directory. -/
def placeIn (dir source : String) : String :=
  let name := lastName source
  inside dir (if name = ".." then "." else name)

/-- Complain if an option names a directory twice. -/
def checkTarget (g : Given) : Task Unit := do
  if 1 < (g.values 't').length then die 1 "multiple target directories specified"

end AslBuild.Tools
