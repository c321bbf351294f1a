import AslBuild.Tools.Copy.Entry
set_option autoImplicit false

/-!
# Tools for links

## Main definitions

* `AslBuild.Tools.ln` — make links.
* `AslBuild.Tools.link`, `AslBuild.Tools.unlink` — make and remove one name of a file.
-/

namespace AslBuild.Tools

open FileSystem Host Text

/-- The options of `ln`. -/
def lnChoices : Choices where
  letters := "bdfinrst:vFLPS:T"
  words := [("backup::", 'b'), ("directory", 'd'), ("no-dereference", 'n'),
    ("no-target-directory", 'T'), ("force", 'f'), ("interactive", 'i'), ("suffix", 'S'),
    ("target-directory", 't'), ("logical", 'L'), ("physical", 'P'), ("relative", 'r'),
    ("symbolic", 's'), ("verbose", 'v')]

/-- The text of a link at a place that leads to a target from where it lies. -/
def relativeTarget (target place : String) : Task String := do
  let d ← files
  let above := (String.ofList ((place.toList.reverse.dropWhile (· != '/')).reverse))
  let dir := canonical d .any true (if above.isEmpty then "." else above)
  let goal := canonical d .any true target
  match dir, goal with
  | .ok dir, .ok goal => pure (Raw.ofText (relativeTo dir goal))
  | _, _ => pure target

/-- How links are made. -/
structure Linking where
  /-- Whether they are symbolic. -/
  symbolic : Bool
  /-- Whether the target is given as it is seen from where the link lies. -/
  relative : Bool
  /-- Whether a link that is the target is followed. -/
  follows : Bool
  /-- Whether directories may get more names. -/
  folders : Bool
  /-- Whether what lies in the place is replaced, and whether that is asked about. -/
  replaces : Bool
  asks : Bool
  /-- How files are kept that are replaced. -/
  keeping : Option Keeping
  /-- Whether the links made before must stay. -/
  guards : Bool
  /-- Whether it is told which links are made. -/
  verbose : Bool

/-- What is wrong with the place of a link, rather than with the target. -/
def placeTroubles : List Errno := [.alreadyExists, .noSpace]

/-- Complain that a link was not made. -/
def notLinked (l : Linking) (target place : String) (e : IoError) : Task Unit :=
  let shownTarget := if l.symbolic then (if target.isEmpty then " -> ''" else "")
    else if placeTroubles.any fun errno => e == .os errno then ""
    else " => " ++ quoted target
  warn ("failed to create " ++ (if l.symbolic then "symbolic" else "hard") ++ " link " ++
    quoted place ++ shownTarget ++ ": " ++ reasonOf e)

/-- Make a link where something may lie that is replaced. -/
def forceLink (l : Linking) (replaces : Bool) (target place : String) :
    Task (Except IoError Unit) := do
  if l.symbolic then linkTo replaces target place
  else
    match ← placedAt l.follows target with
    | .error e => pure (.error e)
    | .ok source =>
      if isFolder source then
        if (← entryHere place).toOption.isSome then pure (.error (.os .alreadyExists))
        else pure (.error (.os .notPermitted))
      else do pure ((← nameFile replaces source.1 place).map fun _ => ())

/-- Whether what lies at a place may give way to a link. -/
def mayGiveWay (l : Linking) (made : List Location) (target place : String) (there : Placed) :
    Task Bool := do
  let d ← files
  if isFolder there then
    warn (quotedIfOdd place ++ ": cannot overwrite directory")
    pure false
  else if made.contains there.1 then
    warn ("will not overwrite just-created " ++ quoted place ++ " with " ++ quoted target)
    pure false
  else
    let isSame := match ← placedAt (l.symbolic || l.follows) target with
      | .ok source =>
        isOneFile d.tree source.1 there.1 &&
          (entryLinks d.tree source.1 source.2 = 1 || isSameName d target place)
      | .error _ => false
    if isSame then
      warn (quoted target ++ " and " ++ quoted place ++ " are the same file")
      pure false
    else if l.asks then
      let agreed ← ask ("replace " ++ quoted place)
      if !agreed then mark 1
      pure agreed
    else pure true

/-- Make a link, where some were made before. What lies in its place may be kept. -/
def makeLinkTo (l : Linking) (target place : String) : StateT (List Location) Task Unit := do
  let text ← if l.symbolic && l.relative then (relativeTarget target place : Task String)
    else pure target
  let note (kept : Option String) : StateT (List Location) Task Unit := do
    if l.guards then
      match slotOf? (← files) place with
      | some loc => modify (loc :: ·)
      | none => pure ()
    if l.verbose then
      say ((match kept with
        | some kept => quoted kept ++ " ~ "
        | none => "") ++ quoted place ++ (if l.symbolic then " -> " else " => ") ++
        quoted text ++ "\n")
  match ← (forceLink l false text place : Task _) with
  | .ok () => note none
  | .error e => do
    let source ← (placedAt l.follows target : Task _)
    match if l.symbolic then none else some source with
    | some (.error e) => warn ("failed to access " ++ quoted target ++ ": " ++ reasonOf e)
    | found => do
      let isDir := match found with
        | some (.ok source) => isFolder source
        | _ => false
      if isDir && !l.folders then
        warn (quotedIfOdd target ++ ": hard link not allowed for directory")
      else if !(l.replaces || l.asks || l.keeping.isSome) then notLinked l text place e
      else match ← (placedAt false place : Task _) with
        | .error (.os .noEntry) => notLinked l text place e
        | .error e => warn ("failed to access " ++ quoted place ++ ": " ++ reasonOf e)
        | .ok there => do
          if ← (mayGiveWay l (← get) target place there : Task Bool) then
            let kept ← match l.keeping with
              | none => pure (.ok none)
              | some k => do pure ((← (k.keep place : Task _)).map some)
            match kept with
            | .error e => warn ("cannot backup " ++ quoted place ++ ": " ++ reasonOf e)
            | .ok kept => do
              match ← (forceLink l true text place : Task _) with
              | .ok () => note kept
              | .error e => do
                notLinked l text place e
                match kept with
                | some kept =>
                  let _ ← (onMachine fun p => moveEntry p (pathOf kept) (pathOf place) :
                    Task (Except IoError Unit))
                | none => pure ()

/-- How links are made as options ask for it. -/
def linkingOf (g : Given) : Task Linking := do
  let keeping ← keepingOf g
  let symbolic := g.has 's'
  let last := g.last? ['i', 'f']
  pure {
    symbolic, keeping
    relative := g.has 'r'
    follows := g.last? ['L', 'P'] = some 'L'
    folders := g.has 'd' || g.has 'F'
    replaces := last = some 'f'
    asks := last = some 'i'
    guards := last = some 'f' && !symbolic && keeping.map Keeping.rule != some .numbered
    verbose := g.has 'v' }

/-- Make links. -/
def ln : Tool := .ofTask fun args => do
  let g ← given lnChoices args
  checkTarget g
  if g.operands.isEmpty then misuse 1 "missing file operand"
  if g.has 'T' then
    if g.has 't' then die 1 "cannot combine --target-directory and --no-target-directory"
    match g.operands with
    | [_, _] => pure ()
    | [a] => misuse 1 ("missing destination file operand after " ++ quoted a)
    | operands => misuse 1 ("extra operand " ++ quoted (operands[2]?.getD ""))
  if g.has 'r' && !g.has 's' then die 1 "cannot do --relative without --symbolic"
  let leadsToDir (path : String) : Task Bool := do
    if g.has 'n' then pure (isDirectory (← entryHere path)) else pure (isDirectory (← entryAt path))
  let destination : Destination ← match g.value? 't', g.operands with
    | some dir, targets => do
      match ← asDirectory dir with
      | .ok () => pure (.into dir targets)
      | .error e => die 1 ("failed to access " ++ quoted dir ++ ": " ++ reasonOf e)
    | none, [target] => pure (.into "." [target])
    | none, [target, place] => do
      if !g.has 'T' && (← leadsToDir place) then pure (.into place [target])
      else pure (.at target place)
    | none, operands => do
      let dir := operands.getLast?.getD ""
      if ← leadsToDir dir then pure (.into dir operands.dropLast)
      else match ← asDirectory dir with
        | .error e => die 1 ("target " ++ quoted dir ++ ": " ++ reasonOf e)
        | .ok () => die 1 ("target " ++ quoted dir ++ ": Not a directory")
  let l ← linkingOf g
  let task : StateT (List Location) Task Unit := match destination with
    | .into dir targets =>
      let l := { l with guards := l.guards && 1 < targets.length }
      targets.forM fun target => makeLinkTo l target (inside dir (lastName target))
    | .at target place => makeLinkTo { l with guards := false } target place
  let _ ← task.run []

/-- Let a file have one more name. -/
def link : Tool := .ofTask fun args => do
  let g ← given { letters := "" } args
  match g.operands with
  | [] => misuse 1 "missing operand"
  | [a] => misuse 1 ("missing operand after " ++ quoted a)
  | [source, place] => do
    let d ← files
    let made ← match d.lstat (pathOf source) with
      | .ok (_, .dir _) => pure (.error (.os .notPermitted))
      | .ok (loc, _) => onFiles (Disk.makeAlias loc (pathOf place))
      | .error e => pure (.error e)
    match made with
    | .ok () => pure ()
    | .error e =>
      die 1 ("cannot create link " ++ quoted place ++ " to " ++ quoted source ++ ": " ++ reasonOf e)
  | operands => misuse 1 ("extra operand " ++ quoted (operands[2]?.getD ""))

/-- Remove one name of a file. -/
def unlink : Tool := .ofTask fun args => do
  let g ← given { letters := "" } args
  match g.operands with
  | [] => misuse 1 "missing operand"
  | [path] =>
    match ← onFiles (Disk.unlink (pathOf path)) with
    | .ok () => pure ()
    | .error e => die 1 ("cannot unlink " ++ quoted path ++ ": " ++ reasonOf e)
  | operands => misuse 1 ("extra operand " ++ quoted (operands[1]?.getD ""))

end AslBuild.Tools
