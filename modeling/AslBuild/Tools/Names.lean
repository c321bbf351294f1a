import AslBuild.Text.Escape
import AslBuild.Tools.Paths
set_option autoImplicit false

/-!
# Tools that work on names of files

## Main definitions

* `AslBuild.Tools.canonical` — the location that a path leads to, as far as there is anything.
* `AslBuild.Tools.basename`, `AslBuild.Tools.dirname` — parts of paths.
* `AslBuild.Tools.readlink`, `AslBuild.Tools.realpath`, `AslBuild.Tools.pwd` — where paths lead.
* `AslBuild.Tools.which` — which programs are meant.
-/

namespace AslBuild.Tools

open FileSystem Host Text

/-- Print texts, each with an end behind it. -/
def sayAll (finish : String) (texts : List String) : Task Unit :=
  texts.forM fun t => say (t ++ finish)

/-! ## Parts of paths -/

/-- The options of `basename`. -/
def basenameChoices : Choices where
  letters := "as:z"
  words := [("multiple", 'a'), ("suffix", 's'), ("zero", 'z')]
  ordered := true

/-- A name without an ending, unless that is all of it. -/
def withoutEnding (ending name : String) : String :=
  if !ending.isEmpty && name != ending && name.endsWith ending then
    (name.dropEnd ending.length).toString
  else name

/-- Print the last components of paths. -/
def basename : Tool := .ofTask fun args => do
  let g ← given basenameChoices args
  let finish := if g.has 'z' then "\x00" else "\n"
  match g.operands with
  | [] => misuse 1 "missing operand"
  | paths@(path :: rest) =>
    if g.has 'a' || g.has 's' then
      sayAll finish (paths.map fun p => withoutEnding ((g.value? 's').getD "") (lastName p))
    else match rest with
      | [] => say (lastName path ++ finish)
      | [ending] => say (withoutEnding ending (lastName path) ++ finish)
      | _ :: extra :: _ => misuse 1 ("extra operand " ++ quoted extra)

/-- Print paths without their last components. -/
def dirname : Tool := .ofTask fun args => do
  let g ← given { letters := "z", words := [("zero", 'z')] } args
  if g.operands.isEmpty then misuse 1 "missing operand"
  sayAll (if g.has 'z' then "\x00" else "\n") (g.operands.map dirName)

/-! ## Where paths lead -/

/-- How much of a path has to be there. -/
inductive Presence
  /-- All of it. -/
  | all
  /-- All but the last component. -/
  | most
  /-- Nothing. -/
  | any
deriving DecidableEq

/-- Whether what comes behind a component asks for it to be a directory. An empty component stands
for a slash at the end. -/
def asksForDir : List String → Bool
  | [] => false
  | "" :: _ | ".." :: _ => true
  | "." :: rest => rest.isEmpty || asksForDir rest
  | _ => false

/-- The components of a path, with an empty one for a slash at the end. -/
def componentsOf (path : List Char) : List String :=
  namesOf path ++ if path.getLast? = some '/' then [""] else []

/-- Why a location that a component leads to cannot be taken, if it cannot. -/
def missing? (d : Disk) (presence : Presence) (loc : Location) (rest : List String) :
    Option Errno :=
  let text := "/" ++ "/".intercalate loc
  let seen (text : String) : Option Errno := match d.stat ⟨text⟩ with
    | .ok _ => none
    | .error (.os errno) => some errno
    | .error _ => some .noEntry
  let problem := if asksForDir rest then seen (text ++ "/")
    else match d.lstat ⟨text⟩ with
      | .ok _ => none
      | .error _ => seen text
  match presence with
  | .any => none
  | .all => problem
  | .most => problem.filter fun errno => !(errno == .noEntry && (rest.all String.isEmpty))

/-- The location that some components lead to from another one, in at most so many steps and over at
most so many links. -/
def canonicalFrom (d : Disk) (presence : Presence) : Nat → Nat → Location → List String →
    Except IoError Location
  | 0, _, _, _ => .error (.os .tooManyLinks)
  | _, _, loc, [] => .ok loc
  | n + 1, links, loc, name :: names =>
    if name = "." ∨ name.isEmpty then canonicalFrom d presence n links loc names
    else if name = ".." then canonicalFrom d presence n links loc.dropLast names
    else
      let here := loc ++ [name]
      let target := if links = 0 then none else match d.lstat ⟨"/" ++ "/".intercalate here⟩ with
        | .ok (_, .link target) => some target.toList
        | _ => none
      match target with
      | some target =>
        if links = 1 then
          if presence = .any then canonicalFrom d presence n links here names
          else .error (.os .tooManyLinks)
        else
          let front := if names.isEmpty then componentsOf target else namesOf target
          canonicalFrom d presence n (links - 1) (startOf loc target) (front ++ names)
      | none =>
        match missing? d presence here names with
        | some errno => .error (.os errno)
        | none => canonicalFrom d presence n links here names

/-- The number of steps that are taken to find out where a path leads. -/
def canonicalLimit : Nat := 5000

/-- How many links are followed. -/
def canonicalLinks : Nat := 40

/-- The location that a path leads to, as far as there is anything. -/
def canonical (d : Disk) (presence : Presence) (links : Bool) (path : String) :
    Except IoError Location :=
  if path.isEmpty then .error (.os .noEntry)
  else
    let cs := (Raw.toText path).toList
    canonicalFrom d presence canonicalLimit (if links then canonicalLinks + 1 else 0)
      (startOf d.cwd cs) (componentsOf cs)

/-- The raw text of the path to a location. -/
def placeText (loc : Location) : String := Raw.ofText ("/" ++ "/".intercalate loc)

/-- The options of `readlink`. -/
def readlinkChoices : Choices where
  letters := "efmnqsvz"
  words := [("canonicalize", 'f'), ("canonicalize-existing", 'e'), ("canonicalize-missing", 'm'),
    ("no-newline", 'n'), ("quiet", 'q'), ("silent", 's'), ("verbose", 'v'), ("zero", 'z')]

/-- Print the targets of links, or where paths lead. -/
def readlink : Tool := .ofTask fun args => do
  let g ← given readlinkChoices args
  if g.operands.isEmpty then misuse 1 "missing operand"
  if g.has 'n' && 1 < g.operands.length then
    remark "ignoring --no-newline with multiple arguments"
  let finish := if g.has 'n' && g.operands.length = 1 then "" else if g.has 'z' then "\x00" else "\n"
  g.operands.forM fun path => do
    let d ← files
    let result : Except IoError String := match g.last? ['e', 'f', 'm'] with
      | some c =>
        (canonical d (if c = 'e' then .all else if c = 'm' then .any else .most) true path).map
          placeText
      | none => match d.lstat (pathOf path) with
        | .ok (_, .link target) => .ok (Raw.ofText target)
        | .ok _ => .error (.os .invalidArgument)
        | .error e => .error e
    match result with
    | .ok text => say (text ++ finish)
    | .error e => do
      if g.has 'v' then remark (quotedIfOdd path ++ ": " ++ reasonOf e)
      mark 1

/-- The options of `realpath`. -/
def realpathChoices : Choices where
  letters := "eLmPqsz"
  words := [("canonicalize-existing", 'e'), ("canonicalize-missing", 'm'), ("logical", 'L'),
    ("physical", 'P'), ("quiet", 'q'), ("strip", 's'), ("no-symlinks", 's'), ("zero", 'z'),
    ("relative-to:", 'r'), ("relative-base:", 'b')]

/-- A location as it is seen from another one. -/
def relativeTo : Location → Location → String
  | a :: base, b :: loc =>
    if a = b then relativeTo base loc
    else "/".intercalate ((a :: base).map (fun _ => "..") ++ b :: loc)
  | base, loc =>
    if base.isEmpty && loc.isEmpty then "."
    else "/".intercalate (base.map (fun _ => "..") ++ loc)

/-- Print where paths lead. -/
def realpath : Tool := .ofTask fun args => do
  let g ← given realpathChoices args
  if g.operands.isEmpty then misuse 1 "missing operand"
  let presence : Presence := match g.last? ['e', 'm'] with
    | some 'e' => .all
    | some _ => .any
    | none => .most
  let d ← files
  let resolve (path : String) : Except IoError Location :=
    if g.has 's' then canonical d presence false path
    else if g.last? ['L', 'P'] = some 'L' then do
      canonical d presence true (placeText (← canonical d presence false path))
    else canonical d presence true path
  let dirOf (c : Char) : Task (Option Location) := do
    match g.value? c with
    | none => pure none
    | some path =>
      match resolve path with
      | .error e => die 1 (quotedIfOdd path ++ ": " ++ reasonOf e)
      | .ok loc => do
        if presence = .all && !isDirectory (← entryAt path) then
          die 1 (quotedIfOdd path ++ ": Not a directory")
        pure (some loc)
  let start ← dirOf 'r'
  let base ← dirOf 'b'
  let start := match start, base with
    | none, base => base
    | some start, some base => if base.isPrefixOf start then some start else none
    | start, none => start
  g.operands.forM fun path => do
    match resolve path with
    | .ok loc =>
      let text := match start.filter fun _ => base.all fun b => b.isPrefixOf loc with
        | some from_ => Raw.ofText (relativeTo from_ loc)
        | none => placeText loc
      say (text ++ if g.has 'z' then "\x00" else "\n")
    | .error e =>
      if g.has 'q' then mark 1 else warn (quotedIfOdd path ++ ": " ++ reasonOf e)

/-- Print the working directory. -/
def pwd : Tool := .ofTask fun args => do
  let g ← given { letters := "LP", words := [("logical", 'L'), ("physical", 'P')] } args
  if !g.operands.isEmpty then remark "ignoring non-option arguments"
  let p := (← Act.read).process
  if isFixed p.cwd && !p.cwd.isEmpty then
    die 1 "couldn't find directory entry in '..' with matching i-node"
  let usual := if (p.value? "POSIXLY_CORRECT").isSome then 'L' else 'P'
  let said := if (g.last? ['L', 'P']).getD usual = 'L' then p.value? "PWD" else none
  let d ← files
  match said.filter fun dir => dir.startsWith "/" && (d.locate (pathOf dir)).toOption == some p.cwd with
  | some dir => say (dir ++ "\n")
  | none => say (placeText p.cwd ++ "\n")

/-! ## Users and programs -/

/-- The name and the number of the user. -/
def userName : String := "user"

/-- The number of the user. -/
def userNumber : Nat := 1000

/-- The directories in which `which` looks if no variable lists them. -/
def whichPath : String := "/usr/local/sbin:/usr/local/bin:/usr/sbin:/usr/bin:/sbin:/bin"

/-- Print the paths at which programs are found. -/
def which : Tool := .ofTask fun args => do
  let (opts, names) := args.span fun a => a.startsWith "-" && a.length > 1
  match opts.flatMap (fun a => a.toList.drop 1) |>.find? fun c => c != 'a' && c != 's' with
  | some c => do
    tell ("Illegal option -" ++ c.toString ++ "\n")
    say "Usage: /usr/bin/which [-as] args\n"
    quit 2
  | none => pure ()
  let has (c : Char) : Bool := opts.any fun a => a.toList.contains c
  if names.isEmpty then mark 1
  let d ← files
  let dirs := (((← Act.read).process.value? "PATH").getD whichPath).splitOn ":"
  names.forM fun name => do
    let places := if name.toList.contains '/' then [name]
      else dirs.map fun dir => inside (if dir.isEmpty then "." else dir) name
    let found := places.filter fun p => d.isProgram (pathOf p)
    if found.isEmpty then mark 1
    else if has 's' then pure ()
    else sayAll "\n" (if has 'a' then found else found.take 1)

end AslBuild.Tools
