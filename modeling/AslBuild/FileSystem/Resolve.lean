import AslBuild.FileSystem.Tree
set_option autoImplicit false

/-!
# From a path to a location

A path is walked step by step from the root or from the working directory. Every step but the last
has to lead through a directory; a symbolic link met on the way is replaced by its target. There is
a bound on the number of links that one path may lead through, so that a cycle of links ends in an
error.

## Main definitions

* `AslBuild.FileSystem.Disk` — a tree as one process sees it: with a working directory and a
  directory for temporary files.
* `AslBuild.FileSystem.Tree.walk` — the location that a list of steps leads to.
* `AslBuild.FileSystem.Tree.slot` — the directory that a path ends in, and its last step.
* `AslBuild.FileSystem.Disk.locate`, `AslBuild.FileSystem.Disk.stat`,
  `AslBuild.FileSystem.Disk.lstat` — what a path leads to, with a link at its end followed or not.
-/

namespace AslBuild.FileSystem

/-! ## Steps of a path -/

/-- The names in a path, without the empty ones. -/
def namesOf (text : List Char) : List String :=
  ((Text.pieces (· == '/') text).filter fun p => !p.isEmpty).map String.ofList

/-- Whether a path ends with a slash. -/
def endsInSlash (text : List Char) : Bool := text.getLast? == some '/'

/-- The steps of a path. A slash at its end asks for a directory, as a `.` there would. -/
def stepsOf (text : List Char) : List String :=
  if endsInSlash text then namesOf text ++ ["."] else namesOf text

/-- The most bytes that a name may have. -/
def maxName : Nat := 255

/-- The number of bytes that a path cannot reach. -/
def pathLimit : Nat := 4096

/-- The most links that one walk follows. -/
def maxLinks : Nat := 40

/-- Where a path starts: at the root, or in the directory `base`. -/
def startOf (base : Location) (text : List Char) : Location :=
  if text.head? == some '/' then [] else base

namespace Tree

/-! ## Walking -/

/-- Walk down a list of steps from a location. At a link, `follow` goes on with the place where the
target starts, the steps of the target and the steps that are left. The number of links that may
still be followed is handed on. -/
def descend (t : Tree) (follow : Location → List String → Except Errno (Location × Nat))
    (links : Nat) : Location → List String → Except Errno (Location × Nat)
  | loc, [] => .ok (loc, links)
  | loc, step :: steps =>
    match t.get? loc with
    | none => .error .noEntry
    | some (.dir mode) =>
      if !mayEnter mode then .error .accessDenied
      else if step = "." then descend t follow links loc steps
      else if step = ".." then descend t follow links loc.dropLast steps
      else if maxName < step.utf8ByteSize then .error .nameTooLong
      else match t.get? (loc ++ [step]) with
        | none => .error .noEntry
        | some (.link target) =>
          follow (startOf loc target.toList) (stepsOf target.toList ++ steps)
        | some _ => descend t follow links (loc ++ [step]) steps
    | some _ => .error .notDirectory

/-- Walk down a list of steps from a location, following at most so many links. The number of those
that are left over comes with the location. -/
def walk (t : Tree) : Nat → Location → List String → Except Errno (Location × Nat)
  | 0 => t.descend (fun _ _ => .error .tooManyLinks) 0
  | links + 1 => t.descend (walk t links) (links + 1)

/-- Nothing if there is a directory at a location that may be gone through, else why it cannot be
entered. -/
def enter (t : Tree) (loc : Location) : Except Errno Unit :=
  match t.get? loc with
  | none => .error .noEntry
  | some (.dir mode) => if mayEnter mode then .ok () else .error .accessDenied
  | some _ => .error .notDirectory

/-- Nothing if entries may be made and removed in the directory at a location, else why not. -/
def change (t : Tree) (loc : Location) : Except Errno Unit :=
  match t.get? loc with
  | some (.dir mode) => if mayWrite mode then .ok () else .error .accessDenied
  | _ => .error .noEntry

/-! ## The last step -/

/-- The last step of a path. -/
inductive Last
  /-- An entry of a directory, and whether a slash follows the name. -/
  | name (text : String) (slash : Bool)
  /-- The directory itself. -/
  | here
  /-- The directory above. -/
  | up
  /-- The root. -/
  | root
deriving DecidableEq

/-- The directory that a path ends in, its last step, and the number of links that may still be
followed. The links on the way are followed, one at the end is not. -/
def slot (t : Tree) (links : Nat) (base : Location) (text : List Char) :
    Except Errno (Location × Last × Nat) :=
  let names := namesOf text
  match names.getLast? with
  | none => .ok ([], .root, links)
  | some last => do
    let (dir, links) ← t.walk links (startOf base text) names.dropLast
    t.enter dir
    if last = "." then .ok (dir, .here, links)
    else if last = ".." then .ok (dir, .up, links)
    else .ok (dir, .name last (endsInSlash text), links)

end Tree

/-! ## A process's view -/

/-- A tree as one process sees it. -/
structure Disk where
  /-- The files. -/
  tree : Tree
  /-- The working directory. -/
  cwd : Location
  /-- The directory for temporary files. -/
  temp : Path
  /-- The bits that the modes of new entries do not have. -/
  mask : Nat := 0o022

namespace Disk

/-- What no path may be: one with a zero character, an empty one, or one that is too long. -/
def check (p : Path) : Except IoError Unit :=
  if p.text.toList.contains (Char.ofNat 0) then .error .zeroInPath
  else if p.text.isEmpty then .error (.os .noEntry)
  else if pathLimit ≤ p.text.utf8ByteSize then .error (.os .nameTooLong)
  else .ok ()

/-- The location that a path leads to, with all links followed. -/
def locate (d : Disk) (p : Path) : Except IoError Location := do
  check p
  let walked := d.tree.walk maxLinks (startOf d.cwd p.text.toList) (stepsOf p.text.toList)
  (walked.mapError .os).map (·.1)

/-- The directory that a path ends in, and its last step. -/
def slot (d : Disk) (p : Path) : Except IoError (Location × Tree.Last) := do
  check p
  ((d.tree.slot maxLinks d.cwd p.text.toList).mapError .os).map fun r => (r.1, r.2.1)

/-- What a path leads to, with all links followed. -/
def stat (d : Disk) (p : Path) : Except IoError (Location × Entry) := do
  let loc ← d.locate p
  match d.tree.get? loc with
  | some e => .ok (loc, e)
  | none => .error (.os .noEntry)

/-- What a path leads to, where a link at its end is not followed. -/
def lstat (d : Disk) (p : Path) : Except IoError (Location × Entry) := do
  match ← d.slot p with
  | (dir, .name text false) =>
    if maxName < text.utf8ByteSize then .error (.os .nameTooLong)
    else match d.tree.get? (dir ++ [text]) with
      | some e => .ok (dir ++ [text], e)
      | none => .error (.os .noEntry)
  | _ => d.stat p

/-- Whether a path leads to anything. -/
def present (d : Disk) (p : Path) : Bool := (d.stat p).toOption.isSome

/-- Whether a path leads to a directory. -/
def isDir (d : Disk) (p : Path) : Bool :=
  match d.stat p with
  | .ok (_, .dir _) => true
  | _ => false

/-- Whether a path leads to a file that may be executed. -/
def isProgram (d : Disk) (p : Path) : Bool :=
  match d.stat p with
  | .ok (_, .file _ mode) => mayEnter mode
  | _ => false

/-- The entries below a location, each with the path from there. -/
def listing (d : Disk) (root : Location) : List (String × Entry) :=
  (d.tree.below root).map fun x => ("/".intercalate (x.1.drop root.length), x.2)

/-- The same view, if its working directory may have been removed: it is then an empty directory, of
which only those above can be reached. -/
def settled (d : Disk) : Disk :=
  match d.tree.get? d.cwd with
  | some (.dir _) => d
  | _ => { d with cwd := d.tree.remnant [] d.cwd }

end Disk

end AslBuild.FileSystem
