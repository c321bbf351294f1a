import AslBuild.FileSystem.Permission
import AslBuild.Text.Date
import AslBuild.Tools.Option
set_option autoImplicit false

/-!
# Paths and what lies there

## Main definitions

* `AslBuild.Tools.entryAt`, `AslBuild.Tools.entryHere` — what lies at a path.
* `AslBuild.Tools.namesIn` — the names in a directory.
* `AslBuild.Tools.sameFile`, `AslBuild.Tools.entryNumber` — what tells whether files are one.
* `AslBuild.Tools.ask` — ask whether something is to be done.
-/

namespace AslBuild.Tools

open FileSystem Host Text

/-! ## Paths -/

/-- A path as tools know it. -/
def pathOf (text : String) : Path := ⟨Raw.toText text⟩

/-- What lies at a path, with links followed. -/
def entryAt (path : String) : Task (Except IoError Entry) := do
  pure (((← files).stat (pathOf path)).map (·.2))

/-- What lies at a path, with a link at its end not followed. -/
def entryHere (path : String) : Task (Except IoError Entry) := do
  pure (((← files).lstat (pathOf path)).map (·.2))

/-- Whether something is a directory. -/
def isDirectory : Except IoError Entry → Bool
  | .ok (.dir _) => true
  | _ => false

/-- A path without the slashes at its end. -/
def withoutSlashes (path : String) : String :=
  let cs := (path.toList.reverse.dropWhile (· == '/')).reverse
  if cs.isEmpty && !path.isEmpty then "/" else String.ofList cs

/-- The last component of a path, and the path in front of it. -/
def lastName (path : String) : String :=
  let cs := (withoutSlashes path).toList
  if cs = ['/'] then "/" else String.ofList (cs.reverse.takeWhile (· != '/')).reverse

/-- A path without its last component. -/
def dirName (path : String) : String :=
  let cs := path.toList.reverse.dropWhile (· == '/')
  let upper := (cs.dropWhile (· != '/')).dropWhile (· == '/')
  if !upper.isEmpty then String.ofList upper.reverse
  else if path.startsWith "/" then "/" else "."

/-- The path to a name in a directory. -/
def inside (dir name : String) : String := if dir.endsWith "/" then dir ++ name else dir ++ "/" ++ name

/-- The names in a directory, in their order. -/
def namesIn (path : String) : Task (Except IoError (List String)) := do
  let d ← files
  match d.stat (pathOf path) with
  | .ok (loc, .dir mode) =>
    if mayRead mode then
      pure (.ok (((d.tree.names loc).map Raw.ofText).mergeSort fun a b => a ≤ b))
    else pure (.error (.os .accessDenied))
  | .ok _ => pure (.error (.os .notDirectory))
  | .error e => pure (.error e)

/-- How deep directories may be nested. -/
def depthLimit : Nat := 1000

/-- The change of a mode that a text spells. -/
def modeOf (text : String) : Task (Option (Bool → Nat → Nat)) := do
  pure (Permission.read? (← Act.read).process.mask text)

/-- The paths to the components of a path, from the first one on. -/
def waysTo (path : String) : List String :=
  let pieces := path.splitOn "/"
  ((List.range pieces.length).filterMap fun n =>
    let way := "/".intercalate (pieces.take (n + 1))
    if way.isEmpty || (pieces[n]?.getD "").isEmpty then none else some way)

/-! ## What lies there -/

/-- The letter of a kind of file. -/
def kindLetter : Entry → Char
  | .dir _ => 'd'
  | .file .. => '-'
  | .link _ => 'l'
  | .device _ => 'c'

/-- The mode of an entry. -/
def entryMode : Entry → Nat
  | .dir mode | .file _ mode => mode
  | .link _ => 0o777
  | .device _ => 0o666

/-- Whether a location belongs to the host, and not to the user. -/
def isHosts (loc : Location) : Bool :=
  match loc with
  | [] => true
  | first :: rest => ["usr", "bin", "dev"].contains first || (first == "tmp" && rest.isEmpty)

/-- The mode of an entry as it is shown. Where the user may not write, the owner may. -/
def shownModeOf (loc : Location) (e : Entry) : Nat :=
  if isHosts loc && entryMode e == 0o555 then 0o755 else entryMode e

/-- The number of bytes of an entry. -/
def entrySize : Entry → Nat
  | .dir _ => 4096
  | .file contents _ => contents.length
  | .link target => target.utf8ByteSize
  | .device _ => 0

/-- The number of names of what lies at a location. -/
def entryLinks (t : Tree) (loc : Location) : Entry → Nat
  | .dir _ => 2 + (t.names loc).countP fun name => match t.get? (loc ++ [name]) with
    | some (.dir _) => true
    | _ => false
  | _ => (t.namesAt loc).length

/-- A number that all names of what lies at a location have in common. -/
def entryNumber (t : Tree) (loc : Location) : Nat :=
  let first := (t.namesAt loc).getLast?.getD loc
  let text := "/".intercalate first
  100000 + text.toList.foldl (fun n c => (n * 131 + c.toNat) % 8000009) 7

/-- What kind of file an entry is. -/
def kindOf : Entry → String
  | .dir _ => "directory"
  | .file contents _ => if contents.isEmpty then "regular empty file" else "regular file"
  | .link _ => "symbolic link"
  | .device _ => "character special file"

/-- When what lies at a path was changed last, with links followed or not. -/
def changedAt (follows : Bool) (path : String) : Task (Except IoError Int) := do
  let d ← files
  pure ((if follows then d.stat (pathOf path) else d.lstat (pathOf path)).map fun found =>
    d.tree.changed found.1)

/-- The location that a path leads to. -/
def locationOf (path : String) : Task (Option Location) := do
  pure (((← files).locate (pathOf path)).toOption)

/-- Whether two locations are those of one file. -/
def isOneFile (t : Tree) (a b : Location) : Bool := (t.namesAt a).contains b

/-- Whether two paths lead to one file. -/
def sameFile (a b : String) : Task Bool := do
  let d ← files
  match d.stat (pathOf a), d.stat (pathOf b) with
  | .ok (x, _), .ok (y, _) => pure (isOneFile d.tree x y)
  | _, _ => pure false

/-! ## Questions -/

/-- The next line of the input. -/
def answer : Task String := do
  match ← onMachine fun p => readSome p 0 none with
  | .error _ => pure ""
  | .ok bytes => do
    let line := bytes.takeWhile (· != 0x0A)
    onMachine fun p => unread p 0 (bytes.drop (line.length + 1))
    pure (Raw.ofBytes line)

/-- Ask whether something is to be done. -/
def ask (question : String) : Task Bool := do
  tell ((← Act.read).name ++ ": " ++ question ++ "? ")
  let line ← answer
  pure (line.startsWith "y" || line.startsWith "Y")

end AslBuild.Tools
