import AslBuild.Act
import AslBuild.FileSystem.Resolve
set_option autoImplicit false

/-!
# Operations on files

Each operation is a step over a `AslBuild.FileSystem.Disk`. It fails with the error that the
operating system gives, and it keeps what it did before it failed.

## Main definitions

* `AslBuild.FileSystem.Disk.makeDir`, `makeDirs` — make one directory, or a directory with those
  above it.
* `AslBuild.FileSystem.Disk.makeTemp` — make a directory with a fresh name among the temporary
  files.
* `AslBuild.FileSystem.Disk.openToWrite`, `write` — open a file, or write all of it, through a link
  if there is one.
* `AslBuild.FileSystem.Disk.unlink`, `removeDir`, `removeAll` — remove an entry, an empty directory,
  or a directory with all that is in it.
* `AslBuild.FileSystem.Disk.rename`, `makeLink`, `setMode` — move an entry, make a symbolic link,
  change a mode.
-/

namespace AslBuild.FileSystem

/-! ## What keeps a directory from being emptied -/

namespace Tree

/-- Whether a directory lets its entries be listed and removed. -/
def isOpen (t : Tree) (loc : Location) : Bool :=
  match t.get? loc with
  | some (.dir mode) => mayRead mode && mayWrite mode && mayEnter mode
  | _ => true

/-- The directories, from one on downwards, in which something is that cannot be removed. -/
def lockedFrom (t : Tree) (root : Location) : List Location :=
  (root :: (t.below root).map (·.1)).filter fun loc => !t.isOpen loc && !(t.names loc).isEmpty

/-- Remove all entries strictly below a location, but those in locked directories and the
directories that lead there. -/
def clear (t : Tree) (root : Location) : Tree :=
  let locked := t.lockedFrom root
  let stays (loc : Location) : Bool := !isBelow loc root ||
    locked.any fun kept => kept == loc || isBelow loc kept || isBelow kept loc
  if locked.isEmpty then t.eraseBelow root
  else { t with
    entries := t.entries.filter fun x => stays x.1
    twins := t.twinsWhere stays
    stamps := t.stamps.filter fun x => stays x.1 }

/-- Where a path leads that is opened and may be made: to a location with an entry, or to one that
is free. At a link, `follow` goes on with its target, if links may still be followed. -/
def reachVia (t : Tree)
    (follow : Nat → Location → List Char → Except Errno (Location × Option Entry)) (links : Nat)
    (base : Location) (text : List Char) : Except Errno (Location × Option Entry) := do
  match ← t.slot links base text with
  | (dir, .name name slash, links) =>
    if slash then .error .isDirectory
    else if maxName < name.utf8ByteSize then .error .nameTooLong
    else
      match t.get? (dir ++ [name]) with
      | some (.link target) =>
        match links with
        | 0 => .error .tooManyLinks
        | links + 1 => follow links dir target.toList
      | entry => .ok (dir ++ [name], entry)
  | _ => .error .isDirectory

/-- Where a path leads that is opened and may be made, with a link at its end followed. At most so
many links are met at an end, and at most so many are followed in all. -/
def reach (t : Tree) :
    Nat → Nat → Location → List Char → Except Errno (Location × Option Entry)
  | 0 => t.reachVia fun _ _ _ => .error .tooManyLinks
  | hops + 1 => t.reachVia (reach t hops)

end Tree

namespace Disk

/-- A step over the files. -/
abbrev Step (α : Type) : Type := Act IoError Disk α

/-- A directory was changed. -/
def touchDir (loc : Location) : Step Unit :=
  Act.update fun d => { d with tree := d.tree.stamp loc d.tree.clock }

/-- Let what lies at a location be something else. -/
def put (loc : Location) (e : Entry) : Step Unit :=
  Act.update fun d => { d with tree := d.tree.rewrite loc e }

/-- Let the file at a location hold something else. -/
def putContents (loc : Location) (e : Entry) : Step Unit := do
  put loc e
  Act.update fun d => { d with tree := d.tree.stamp loc d.tree.clock }

/-- The directory that a path ends in, and its last step. -/
def slotOf (p : Path) : Step (Location × Tree.Last) := do
  Act.ofExcept ((← Act.read).slot p)

/-- Make an entry at a location that is free. -/
def create (loc : Location) (e : Entry) : Step Unit := do
  let dir := loc.dropLast
  if isFixed dir && dir ≠ [] then Act.fail (.os .noEntry)
  else
    Act.ofExcept (((← Act.read).tree.change dir).mapError .os)
    Act.update fun d => { d with tree := d.tree.insert loc e }
    touchDir dir

/-- Remove the entry at a location. -/
def erase (loc : Location) : Step Unit := do
  Act.update fun d => { d with tree := d.tree.erase loc }
  touchDir loc.dropLast

/-! ## Directories -/

/-- Make a directory with a mode. The directory above it has to exist, and hands on the bit that says
for which group programs run. -/
def makeDirWith (mode : Nat) (p : Path) : Step Unit := do
  match ← slotOf p with
  | (dir, .name text _) =>
    if maxName < text.utf8ByteSize then Act.fail (.os .nameTooLong)
    else if ((← Act.read).tree.get? (dir ++ [text])).isSome then Act.fail (.os .alreadyExists)
    else
      let d ← Act.read
      let inherited := match d.tree.get? dir with
        | some (.dir above) => above &&& 0o2000
        | _ => 0
      create (dir ++ [text]) (.dir (masked d.mask mode ||| inherited))
  | _ => Act.fail (.os .alreadyExists)

/-- Make a directory. The directory above it has to exist. -/
def makeDir (p : Path) : Step Unit := makeDirWith dirMode p

/-- Make a directory unless there is one. -/
def ensureDir (p : Path) : Step Unit := do
  match ← (makeDir p).attempt with
  | .ok () => pure ()
  | .error e => if (← Act.read).isDir p then pure () else Act.fail e

/-- Make a directory and those above it, where the path has at most so many components. -/
def makeDirsUpTo : Nat → Path → Step Unit
  | 0, p => ensureDir p
  | depth + 1, p =>
    if p.text.isEmpty then pure ()
    else do
      match ← (makeDir p).attempt with
      | .ok () => pure ()
      | .error e =>
        if e.isNotFound then
          match p.parent? with
          | none => Act.fail e
          | some parent => do
            makeDirsUpTo depth parent
            ensureDir p
        else if (← Act.read).isDir p then pure ()
        else Act.fail e

/-- Make a directory and those above it that are missing. A directory that is there is kept, and the
empty path asks for nothing. -/
def makeDirs (p : Path) : Step Unit := makeDirsUpTo (p.text.length + 1) p

/-- Six digits for a number. -/
def sixDigits (n : Nat) : String :=
  String.ofList (List.replicate (6 - (toString n).length) '0') ++ toString n

/-- The first path among the temporary files, of those that start like `stem`, at which there is
nothing. -/
def freshPath (d : Disk) (stem : String) : Path :=
  let candidate (n : Nat) : Path := d.temp.join ⟨stem ++ sixDigits n⟩
  let free (n : Nat) : Bool := !(d.lstat (candidate n)).toOption.isSome
  candidate (((List.range (d.tree.entries.length + 1)).find? free).getD 0)

/-- The mode of temporary directories: only their owner may use them. -/
def ownMode : Nat := 0o700

/-- Make a directory with a fresh name among the temporary files. -/
def makeTemp (stem : String) : Step Path := do
  let p := (← Act.read).freshPath stem
  match ← (makeDirWith ownMode p).attempt with
  | .ok () => pure p
  | .error e => Act.fail (.atPath e p)

/-! ## Files -/

/-- Open a file for writing, and give its location and what lies there then. A file that is not
there is made; one that is there keeps its mode, and is emptied if that is asked for. -/
def openToWrite (empty : Bool) (p : Path) : Step (Location × Entry) := do
  Act.ofExcept (check p)
  let d ← Act.read
  let (loc, found) ← Act.ofExcept
    ((d.tree.reach maxLinks maxLinks d.cwd p.text.toList).mapError .os)
  match found with
  | none =>
    let e := Entry.file [] (masked d.mask fileMode)
    create loc e
    pure (loc, e)
  | some (.file contents mode) =>
    if !mayWrite mode then Act.fail (.os .accessDenied)
    else
      let e := Entry.file (if empty then [] else contents) mode
      if empty then putContents loc e
      pure (loc, e)
  | some (.device .terminal) => Act.fail (.os .noDevice)
  | some (.device kind) => pure (loc, .device kind)
  | some _ => Act.fail (.os .isDirectory)

/-- Write a file, replacing what it held. -/
def write (p : Path) (contents : List UInt8) : Step Unit := do
  match ← openToWrite true p with
  | (loc, .file _ mode) => putContents loc (.file contents mode)
  | (_, .device .full) => if contents.isEmpty then pure () else Act.fail (.os .noSpace)
  | _ => pure ()

/-- Change the mode of a file or of a directory. -/
def setMode (p : Path) (change : Nat → Nat) : Step Unit := do
  match ← Act.ofExcept ((← Act.read).stat p) with
  | (loc, .file contents mode) => put loc (.file contents (change mode))
  | (loc, .dir mode) =>
    if isFixed loc then Act.fail (.os .notPermitted) else put loc (.dir (change mode))
  | _ => Act.fail (.os .notPermitted)

/-- Put an entry at a path at which there is nothing, and give its location. -/
def makeEntryAt (p : Path) (e : Entry) : Step Location := do
  match ← slotOf p with
  | (dir, .name text slash) =>
    if maxName < text.utf8ByteSize then Act.fail (.os .nameTooLong)
    else if ((← Act.read).tree.get? (dir ++ [text])).isSome then Act.fail (.os .alreadyExists)
    else if slash then Act.fail (.os .noEntry)
    else
      create (dir ++ [text]) e
      pure (dir ++ [text])
  | _ => Act.fail (.os .alreadyExists)

/-- Put an entry at a path at which there is nothing. -/
def makeEntry (p : Path) (e : Entry) : Step Unit := do
  let _ ← makeEntryAt p e

/-- Let what lies at a location also lie at a path at which there is nothing. -/
def makeAlias (loc : Location) (p : Path) : Step Unit := do
  match (← Act.read).tree.get? loc with
  | some e =>
    let other ← makeEntryAt p e
    Act.update fun d => { d with tree := d.tree.addTwin loc other e }
  | none => Act.fail (.os .noEntry)

/-- Make a symbolic link. -/
def makeLink (p : Path) (target : String) : Step Unit :=
  if target.isEmpty then Act.fail (.os .noEntry) else makeEntry p (.link target)

/-! ## Removing -/

/-- Remove a file or a link. -/
def unlink (p : Path) : Step Unit := do
  match ← slotOf p with
  | (dir, .name text slash) =>
    if maxName < text.utf8ByteSize then Act.fail (.os .nameTooLong)
    else match (← Act.read).tree.get? (dir ++ [text]) with
      | none => Act.fail (.os .noEntry)
      | some (.dir _) =>
        if !slash then Act.ofExcept (((← Act.read).tree.change dir).mapError .os)
        Act.fail (.os .isDirectory)
      | some _ =>
        if slash then Act.fail (.os .notDirectory)
        else
          Act.ofExcept (((← Act.read).tree.change dir).mapError .os)
          erase (dir ++ [text])
  | _ => Act.fail (.os .isDirectory)

/-- Remove an empty directory. A path that ends in `.` or `..`, and the root, are refused. A process
whose working directory it was stays in it. -/
def removeDir (p : Path) : Step Unit := do
  match ← slotOf p with
  | (dir, .name text _) =>
    if maxName < text.utf8ByteSize then Act.fail (.os .nameTooLong)
    else match (← Act.read).tree.get? (dir ++ [text]) with
      | none => Act.fail (.os .noEntry)
      | some (.dir _) =>
        Act.ofExcept (((← Act.read).tree.change dir).mapError .os)
        if ((← Act.read).tree.below (dir ++ [text])).isEmpty then
          erase (dir ++ [text])
          Act.update settled
        else Act.fail (.os .notEmpty)
      | some _ =>
        Act.ofExcept (((← Act.read).tree.change dir).mapError .os)
        Act.fail (.os .notDirectory)
  | (_, .here) => Act.fail (.os .invalidArgument)
  | (_, .up) => Act.fail (.os .notEmpty)
  | (_, .root) => Act.fail (.os .busy)

/-- Remove a directory and all that is in it. A link is removed and its target kept; links inside
are not followed. The contents go first, so a path that cannot itself be removed ends as an empty
directory, and a path that leads through the contents is not found any more. -/
def removeAll (p : Path) : Step Unit := do
  match (← Act.read).lstat p with
  | .error e => Act.fail e
  | .ok (_, .link _) => unlink p
  | .ok (loc, .dir _) => do
    let locked := (← Act.read).tree.lockedFrom loc
    Act.update fun d => settled { d with tree := d.tree.clear loc }
    if !locked.isEmpty then Act.fail (.os .accessDenied)
    match ← (removeDir p).attempt with
    | .ok () => pure ()
    | .error e => if e.isNotFound then pure () else Act.fail e
  | .ok _ => Act.fail (.os .notDirectory)

/-! ## Moving -/

/-- The location of an entry with all that is below it, seen from another place. -/
def moved (source target loc : Location) : Location :=
  if loc == source || Tree.isBelow loc source then target ++ loc.drop source.length else loc

/-- Why an entry cannot take the place of another. -/
def displacement? (t : Tree) (source target : Location) (e : Entry) : Option Errno :=
  match e, t.get? target with
  | _, none => none
  | .dir _, some (.dir _) => if (t.below target).isEmpty then none else some .notEmpty
  | .dir _, some _ => some .notDirectory
  | _, some (.dir _) => some (if source = target then .invalidArgument else .isDirectory)
  | _, some _ => none

/-- Move an entry with all that is below it. What lies at the target gives way, if it is of the same
kind and a directory is empty. The locations of the entry before and after are given. -/
def rename (p q : Path) : Step (Location × Location) := do
  match ← slotOf p, ← slotOf q with
  | (dir, .name text slash), (dir', .name text' slash') =>
    let t := (← Act.read).tree
    let source := dir ++ [text]
    let target := dir' ++ [text']
    match t.get? source with
    | none => Act.fail (.os .noEntry)
    | some e =>
      let isDirectory := match e with
        | .dir _ => true
        | _ => false
      if !isDirectory && (slash || slash') then Act.fail (.os .notDirectory)
      else if maxName < text'.utf8ByteSize then Act.fail (.os .nameTooLong)
      else if Tree.isBelow target source then Act.fail (.os .invalidArgument)
      else if Tree.isBelow source target then Act.fail (.os .notEmpty)
      else
        Act.ofExcept ((t.change dir).mapError .os)
        Act.ofExcept ((t.change dir').mapError .os)
        match if source = target then none else displacement? t source target e with
        | some errno => Act.fail (.os errno)
        | none =>
          if source ≠ target ∧ (t.namesAt source).contains target then pure (source, source)
          else
            let rest : Tree := if source = target then t else t.erase target
            let place := moved source target
            Act.update fun d =>
              { d with
                tree := { rest with
                  entries := rest.entries.map fun x => (place x.1, x.2)
                  twins := rest.twins.map (·.map place)
                  stamps := rest.stamps.map fun x => (place x.1, x.2) }
                cwd := place d.cwd }
            touchDir dir
            touchDir dir'
            pure (source, target)
  | _, _ => Act.fail (.os .busy)

end Disk

end AslBuild.FileSystem
