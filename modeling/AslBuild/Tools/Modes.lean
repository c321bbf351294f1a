import AslBuild.Tools.Paths
set_option autoImplicit false

/-!
# Changing modes

## Main definitions

* `AslBuild.Tools.ModeChange` — a change of modes, and what is told of it.
* `AslBuild.Tools.chmod` — change modes.
-/

namespace AslBuild.Tools

open FileSystem Host Text

/-- A change of modes, and what is told of it. -/
structure ModeChange where
  /-- The new mode, from whether it is a directory and from the mode. -/
  change : Bool → Nat → Nat
  /-- The new mode that one may expect, if the change could be a surprise. -/
  expected : Option (Bool → Nat → Nat) := none
  /-- Whether what is in directories is changed, too. -/
  recursive : Bool := false
  /-- Whether nothing is said about failures. -/
  silent : Bool := false
  /-- Whether everything is told, or only what was changed. -/
  verbose : Bool := false
  changes : Bool := false

/-- The octal digits of a mode. -/
def fourDigits (mode : Nat) : String :=
  let ds := Nat.toDigits 8 mode
  String.ofList (List.replicate (4 - ds.length) '0' ++ ds)

/-- The letters of a mode. -/
def modeLetters (mode : Nat) : String := ((Permission.listed '-' mode).drop 1).toString

/-- The digits and the letters of a mode. -/
def shownMode (mode : Nat) : String := fourDigits mode ++ " (" ++ modeLetters mode ++ ")"

/-- Complain about a path unless that is not wanted. -/
def ModeChange.complain (k : ModeChange) (message : String) : Task Unit := do
  if k.silent then mark 1 else warn message

/-- Change the mode of something that is no link. -/
def ModeChange.apply (k : ModeChange) (path : String) (e : Entry) : Task Unit := do
  let isDir := isDirectory (.ok e)
  let old := entryMode e
  let new := k.change isDir old
  let done ← onFiles (Disk.setMode (pathOf path) fun _ => new)
  let from_ := " from " ++ shownMode old ++ " to " ++ shownMode new ++ "\n"
  match done with
  | .error e => do
    k.complain ("changing permissions of " ++ quoted path ++ ": " ++ reasonOf e)
    if k.verbose then say ("failed to change mode of " ++ quoted path ++ from_)
  | .ok () => do
    if old ≠ new then
      if k.verbose || k.changes then say ("mode of " ++ quoted path ++ " changed" ++ from_)
    else if k.verbose then
      say ("mode of " ++ quoted path ++ " retained as " ++ shownMode new ++ "\n")
    match k.expected with
    | none => pure ()
    | some expected =>
      let wanted := expected isDir old
      if new &&& wanted ≠ new then
        warn (quotedIfOdd path ++ ": new permissions are " ++ modeLetters new ++ ", not " ++
          modeLetters wanted)

/-- Change the mode of what lies at a path, and of what is in it, so many levels deep. Links that are
met on the way are left alone. -/
def ModeChange.run (k : ModeChange) : Nat → Bool → String → Task Unit
  | 0, _, _ => pure ()
  | n + 1, top, path => do
    let missed : Task Unit := do
      if k.verbose then say (quoted path ++ " could not be accessed\n")
    let found ← if top then entryAt path else entryHere path
    match found with
    | .error e => do
      if e == .os .noEntry && (← entryHere path).toOption.isSome then
        k.complain ("cannot operate on dangling symlink " ++ quoted path)
      else k.complain ("cannot access " ++ quoted path ++ ": " ++ reasonOf e)
      missed
    | .ok (.link _) =>
      if k.verbose then
        say ("neither symbolic link " ++ quoted path ++ " nor referent has been changed\n")
    | .ok e => do
      k.apply path e
      if isDirectory (.ok e) && k.recursive then
        match ← namesIn path with
        | .error e => do
          k.complain ("cannot read directory " ++ quoted path ++ ": " ++ reasonOf e)
          missed
        | .ok names => names.forM fun name => k.run n false (inside path name)

/-- The options of `chmod`. -/
def chmodChoices : Choices where
  letters := "Rcfvm:"
  words := [("changes", 'c'), ("recursive", 'R'), ("no-preserve-root", 'N'),
    ("preserve-root", 'P'), ("quiet", 'f'), ("reference:", 'r'), ("silent", 'f'),
    ("verbose", 'v')]

/-- The arguments of `chmod` with those marked that are modes although they start with a dash: the
first letter behind it that tells is one of a mode. -/
def markModes : List String → List String
  | [] => []
  | "--" :: args => "--" :: args
  | a :: args =>
    (match a.toList with
    | '-' :: cs =>
      if cs.find? (fun c => !"Rcfv".toList.contains c) |>.any "rwxXstugoa,+=01234567".toList.contains
      then
        let letters := cs.takeWhile "Rcfv".toList.contains
        letters.map (fun c => "-" ++ c.toString) ++ ["-m" ++ a]
      else [a]
    | _ => [a]) ++ markModes args

/-- Change modes. -/
def chmod : Tool := .ofTask fun args => do
  let g ← given chmodChoices (markModes args)
  let modes := g.values 'm'
  if g.has 'r' && !modes.isEmpty then misuse 1 "cannot combine mode and --reference options"
  let asked : Option String := if modes.isEmpty then none else some (",".intercalate modes)
  let (mode, paths) := if g.has 'r' || asked.isSome then (asked, g.operands)
    else (g.operands.head?, g.operands.drop 1)
  if paths.isEmpty then
    match asked, mode with
    | none, some mode => misuse 1 ("missing operand after " ++ cited mode)
    | _, _ => misuse 1 "missing operand"
  let talk := (g.options.filter fun o => o.1 == 'c' || o.1 == 'v').getLast?.map (·.1)
  let k : ModeChange :=
    { change := fun _ mode => mode, recursive := g.has 'R', silent := g.has 'f'
      verbose := talk == some 'v', changes := talk == some 'c' }
  let k ← match g.value? 'r', mode with
    | some model, _ =>
      match ← entryAt model with
      | .error e => die 1 ("failed to get attributes of " ++ quoted model ++ ": " ++ reasonOf e)
      | .ok e => pure { k with change := fun _ _ => entryMode e }
    | none, mode => do
      let text := mode.getD ""
      match ← modeOf text with
      | none => misuse 1 ("invalid mode: " ++ cited text)
      | some change =>
        pure { k with
          change, expected := if asked.isSome then Permission.read? 0 text else none }
  paths.forM fun path => do
    if k.recursive && !g.has 'N' && (← locationOf path) == some [] then
      warn ("it is dangerous to operate recursively on " ++ quoted path ++
        if path = "/" then "" else " (same as '/')")
      remark "use --no-preserve-root to override this failsafe"
    else k.run depthLimit true path

end AslBuild.Tools
