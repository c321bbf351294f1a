import AslBuild.Tools.Amount
import AslBuild.Tools.Paths
set_option autoImplicit false

/-!
# Tools that remove directories and files

## Main definitions

* `AslBuild.Tools.rmdir` — remove empty directories.
* `AslBuild.Tools.rm` — remove files, and directories with all that is in them.
-/

namespace AslBuild.Tools

open FileSystem Host Text

/-! ## Empty directories -/

/-- The options of `rmdir`. -/
def rmdirChoices : Choices where
  letters := "pv"
  words := [("ignore-fail-on-non-empty", 'i'), ("path", 'p'), ("parents", 'p'), ("verbose", 'v')]

/-- Whether a directory holds nothing, as far as that can be seen. -/
def holdsNothing (path : String) : Task Bool := do pure ((← namesIn path).toOption == some [])

/-- Remove an empty directory, or complain. `what` tells which directories they are. Whether it is
gone, and whether all is well, are given. -/
def removeEmpty (g : Given) (what path : String) : Task (Bool × Bool) := do
  if g.has 'v' then say ((← Act.read).name ++ ": removing directory, " ++ quoted path ++ "\n")
  match ← onFiles (Disk.removeDir (pathOf path)) with
  | .ok () => pure (true, true)
  | .error e => do
    let blocked := e == .os .accessDenied || e == .os .notPermitted || e == .os .busy
    if g.has 'i' && (e == .os .notEmpty || (blocked && !(← holdsNothing path))) then
      pure (false, true)
    else
      let linked := e == .os .notDirectory && path.endsWith "/" &&
        (match ← entryAt path with
          | .error e => e != .os .notDirectory
          | e => isDirectory e) &&
        (match ← entryHere (withoutSlashes path) with
          | .ok (.link _) => true
          | _ => false)
      warn ("failed to remove " ++ what ++ quoted path ++ ": " ++
        if linked then "Symbolic link not followed" else reasonOf e)
      pure (false, false)

/-- Remove the directories that a path leads through, from the last one on. -/
def removeAbove (g : Given) : List String → Task Unit
  | [] => pure ()
  | way :: ways => do
    if (← removeEmpty g "directory " way).1 then removeAbove g ways

/-- Remove empty directories. -/
def rmdir : Tool := .ofTask fun args => do
  let g ← given rmdirChoices args
  if g.operands.isEmpty then misuse 1 "missing operand"
  g.operands.forM fun path => do
    let (gone, _) ← removeEmpty g "" path
    if gone && g.has 'p' then
      let above := (waysTo (withoutSlashes path)).dropLast.reverse
      removeAbove g (above ++ if path.startsWith "/" then ["/"] else [])

/-! ## Files and directories -/

/-- The options of `rm`. -/
def rmChoices : Choices where
  letters := "dfirvIR"
  words := [("force", 'f'), ("interactive::", 'a'), ("one-file-system", 'o'),
    ("no-preserve-root", 'N'), ("preserve-root::", 'P'), ("-presume-input-tty", 't'),
    ("recursive", 'r'), ("dir", 'd'), ("verbose", 'v')]

/-- When it is asked whether something is to be removed. -/
inductive Asking
  | never
  | once
  | always
deriving DecidableEq

/-- What is to be removed, and how. -/
structure Removal where
  /-- When it is asked. -/
  asking : Asking := .never
  /-- Whether all is well if there is nothing. -/
  lenient : Bool := false
  /-- Whether directories are removed with all that is in them. -/
  recursive : Bool := false
  /-- Whether empty directories are removed. -/
  dirs : Bool := false
  /-- Whether it is told what was removed. -/
  verbose : Bool := false

/-- The words that say when to ask. -/
def askingWords : List (List String × Asking) :=
  [(["never", "no", "none"], .never), (["once"], .once), (["always", "yes"], .always)]

/-- Take an option into account. -/
def Removal.take (r : Removal) (c : Char) (value : String) : Task Removal := do
  match c with
  | 'd' => pure { r with dirs := true }
  | 'f' => pure { r with asking := .never, lenient := true }
  | 'i' => pure { r with asking := .always, lenient := false }
  | 'I' => pure { r with asking := .once, lenient := false }
  | 'a' => do
    let asking ← if value.isEmpty then pure .always else wordOf 1 "--interactive" askingWords value
    pure { r with asking, lenient := r.lenient && asking == .never }
  | 'P' =>
    if value.isEmpty || value == "all" then pure r
    else die 1 ("unrecognized --preserve-root argument: " ++ quoted value)
  | 'v' => pure { r with verbose := true }
  | 'r' | 'R' => pure { r with recursive := true }
  | _ => pure r

/-- How far the removal of something got. -/
inductive Removed
  | gone
  | declined
  | failed
deriving DecidableEq

/-- Complain that something cannot be removed. -/
def notRemoved (path : String) (e : IoError) : Task Removed := do
  warn ("cannot remove " ++ quoted path ++ ": " ++ reasonOf e)
  pure .failed

/-- Whether the owner may not write to what lies at a path, which is no link. -/
def isProtected : Entry → Bool
  | .dir mode | .file _ mode => !mayWrite mode
  | _ => false

/-- Ask about something before it is removed, if that is wanted. -/
def Removal.agreed (r : Removal) (question path : String) (e : Entry) : Task Bool := do
  if r.asking = .always then
    ask (question ++ (if isProtected e then "write-protected " else "") ++ kindOf e ++ " " ++
      quoted path)
  else pure true

/-- Tell the end of a removal. -/
def Removal.finish (r : Removal) (what path : String) (result : Except IoError Unit) :
    Task Removed := do
  match result with
  | .ok () => do
    if r.verbose then say ("removed " ++ what ++ quoted path ++ "\n")
    pure .gone
  | .error e =>
    if r.lenient && (e == .os .noEntry || e == .os .notDirectory) then pure .gone
    else notRemoved path e

/-- Remove what lies at a path, directories so many levels deep. `top` tells whether the path is one
of those that were given. -/
def removePath (r : Removal) : Nat → Bool → String → Task Removed
  | 0, _, _ => pure .failed
  | n + 1, top, path => do
    match ← entryHere path with
    | .error e =>
      if r.asking = .always then notRemoved path e
      else r.finish "" path (← onFiles (Disk.unlink (pathOf path)))
    | .ok (.dir mode) => do
      let e := Entry.dir mode
      let inner ← namesIn path
      let remove : Task Removed := do
        match ← onFiles (Disk.removeDir (pathOf path)), inner with
        | .error (.os .notEmpty), .error e => notRemoved path e
        | result, _ => r.finish "directory " path result
      if !r.recursive && !(r.dirs && inner.toOption == some []) then
        match r.dirs, inner with
        | true, .error _ => do
          if ← r.agreed "attempt removal of inaccessible " path e then remove else pure .declined
        | true, .ok _ => notRemoved path (.os .notEmpty)
        | false, _ => notRemoved path (.os .isDirectory)
      else if top && (lastName path == "." || lastName path == "..") then
        do
          warn ("refusing to remove '.' or '..' directory: skipping " ++ quoted path)
          pure .failed
      else if top && (← locationOf path) == some [] then
        do
          warn ("it is dangerous to operate recursively on " ++ quoted path ++
            if path = "/" then "" else " (same as '/')")
          remark "use --no-preserve-root to override this failsafe"
          pure .failed
      else
        match inner with
        | .error e' =>
          if r.asking = .always then notRemoved path e' else remove
        | .ok [] => if ← r.agreed "remove " path e then remove else pure .declined
        | .ok names => do
          if !(← r.agreed "descend into " path e) then pure .declined
          else
            let results ← names.mapM fun name => removePath r n false (inside path name)
            if results.any (· ≠ .gone) then
              pure (if results.contains .failed then .failed else .declined)
            else if ← r.agreed "remove " path e then remove
            else pure .declined
    | .ok e => do
      if ← r.agreed "remove " path e then r.finish "" path (← onFiles (Disk.unlink (pathOf path)))
      else pure .declined

/-- The hint for those who meant a file with a name that looks like an option. -/
def dashHint : List String → Task String
  | [] => pure ""
  | a :: args => do
    if a.startsWith "-" && a != "-" && (← entryHere a).toOption.isSome then
      pure ("Try '" ++ (← Act.read).name ++ " ./" ++ quotedIfOdd a ++ "' to remove the file " ++
        quoted a ++ ".\n")
    else dashHint args

/-- Remove files. -/
def rm : Tool := .ofTask fun args => do
  let g ← given { rmChoices with hint := ← dashHint args } args
  let r ← g.options.foldlM (fun r (c, value) => Removal.take r c value) ({} : Removal)
  if g.has 'N' && !args.contains "--no-preserve-root" then
    die 1 "you may not abbreviate the --no-preserve-root option"
  if g.operands.isEmpty then
    if r.lenient then quit 0 else misuse 1 "missing operand"
  let count := g.operands.length
  if r.asking = .once && (r.recursive || 3 < count) then
    let agreed ← ask ("remove " ++ toString count ++
      (if count = 1 then " argument" else " arguments") ++
      if r.recursive then " recursively" else "")
    if !agreed then quit 0
  g.operands.forM fun path => do
    let _ ← removePath r depthLimit true path

end AslBuild.Tools
