import AslBuild.Work
set_option autoImplicit false

/-!
# Working directories

A session that generates code writes its files into one directory. It may be given, and is then made
if it is missing; otherwise a fresh one is made among the temporary files. At the end it is removed
with all that is in it, unless it is to be kept.

A directory can go in three ways: its working directory is released, or is let go of without that,
or the temporary directory behind it is let go of. The second follows upon the first, and the third
upon both. So a working directory remembers whether it was released, and whether it still holds the
temporary directory.

## Main definitions

* `AslBuild.TempDir` — a directory among the temporary files.
* `AslBuild.Workspace` — a working directory.
* `AslBuild.Workspace.acquire`, `AslBuild.Workspace.release` — its first and its last step.
* `AslBuild.Workspace.abandon` — the last step if nobody can be told of a failure.
* `AslBuild.Workspace.projectFile` and others — the files in it.
-/

namespace AslBuild

open FileSystem

/-- A directory among the temporary files, which belongs to the one who made it. -/
structure TempDir where
  /-- Its path. -/
  path : Path
  /-- Whether it stays when it is let go of. -/
  keep : Bool
deriving DecidableEq

/-- Where a working directory comes from. -/
inductive Origin
  /-- It was given. -/
  | given (dir : Path)
  /-- It was made among the temporary files, and is held until it is removed. -/
  | temporary (held : Option TempDir)
deriving DecidableEq

/-- A working directory. -/
structure Workspace where
  /-- Its path. -/
  path : Path
  /-- Where it comes from. -/
  origin : Origin
  /-- Whether it is kept. -/
  keep : Bool
  /-- Whether it was released. -/
  released : Bool := false
deriving DecidableEq

namespace Workspace

/-! ## Files -/

/-- The script. -/
def projectFile (w : Workspace) : Path := w.path.join ⟨"asl2c.prj"⟩

/-- The symbol file. -/
def symbolFile (w : Workspace) : Path := w.path.join ⟨"config.json"⟩

/-- The generated MLIR. -/
def mlirFile (w : Workspace) : Path := w.path.join ⟨"asl.mlir"⟩

/-- The parts of generated C or C++, in the order in which they are compiled. -/
def sourceParts : List String := ["exceptions", "vars", "funs"]

/-- What the name of a source ends in. -/
def sourceSuffix (cxx : Bool) : String := if cxx then "cpp" else "c"

/-- The generated C or C++. -/
def sourceFiles (w : Workspace) (basename : String) (cxx : Bool) : List Path :=
  sourceParts.map fun part => w.path.join ⟨basename ++ "_" ++ part ++ "." ++ sourceSuffix cxx⟩

/-- The linked program. -/
def executable (w : Workspace) (basename : String) : Path := w.path.join ⟨basename⟩

/-- What a further source is compiled to. -/
def objectFile (w : Workspace) (source : Path) : Path :=
  w.path.join ⟨source.fileStem?.getD "extra" ++ ".o"⟩

/-! ## Steps -/

/-- What the name of a temporary directory starts with. -/
def temporaryStem : String := "asltest."

section

variable {σ : Type}

/-- Make a directory, or use the one that is given. -/
def enter (requested : Option Path) (keep : Bool) : Work σ Workspace :=
  match requested with
  | some dir => do
    Work.onDisk (.workspace dir) (Disk.makeDirs dir)
    pure { path := dir, origin := .given dir, keep }
  | none => do
    let temp := (← Act.read).disk.temp
    let dir ← Work.onDisk (.workspace temp) (Disk.makeTemp temporaryStem)
    pure { path := dir, origin := .temporary (some ⟨dir, keep⟩), keep }

/-- Make a directory, or use the one that is given, and say so. -/
def acquire (requested : Option Path) (keep verbose : Bool) : Work σ Workspace := do
  let w ← enter requested keep
  Work.progress verbose ("# In working directory " ++ w.path.text)
  pure w

/-- Write a file, replacing what it held. -/
def write (path : Path) (contents : String) : Work σ Unit := do
  Work.onDisk (.workspace path) (Disk.write path (bytesOf contents))
  Work.note (.wrote path)

/-! ## Removal -/

/-- Try to remove a directory with all that is in it, and give what comes of it. -/
def tryRemove (dir : Path) : Work σ (Except IoError Unit) := do
  Work.note (.removing dir)
  Work.onDisk (.workspace dir) (Disk.removeAll dir).attempt

/-- Remove a temporary directory now. A failure names it. -/
def closeTemp (t : TempDir) : Work σ (Except IoError Unit) := do
  let outcome ← tryRemove t.path
  pure (outcome.mapError fun e => .atPath e t.path)

/-- Let go of a temporary directory: it is removed unless it stays, and nobody is told of a failure.
-/
def dropTemp (t : TempDir) : Work σ Unit :=
  if t.keep then pure ()
  else do
    let _ ← tryRemove t.path

/-- Let go of the directory behind a working directory. -/
def dropOrigin : Origin → Work σ Unit
  | .temporary (some t) => dropTemp t
  | _ => pure ()

/-- What comes of a removal if the directory may be gone already. -/
def unlessGone : Except IoError Unit → Except IoError Unit
  | .ok () => .ok ()
  | .error e => if e.isNotFound then .ok () else .error e

/-- Remove the directory, unless it is kept, and give what comes of it together with the working
directory as it is then: a temporary one is no longer held. A given directory may be gone already, a
temporary one may not. -/
def cleanUp (w : Workspace) : Work σ (Except Failure Unit × Workspace) :=
  if w.keep then pure (.ok (), w)
  else
    match w.origin with
    | .temporary none => pure (.ok (), w)
    | .temporary (some t) => do
      let outcome ← closeTemp t
      pure (outcome.mapError (.workspace w.path), { w with origin := .temporary none })
    | .given dir => do
      let outcome ← tryRemove dir
      pure ((unlessGone outcome).mapError (.workspace dir), w)

/-- Log a failure that nobody can be told of. -/
def warnOf : Except Failure Unit → Work σ Unit
  | .ok () => pure ()
  | .error failure => Work.log .warn failure.message

/-- Let go of a working directory. Unless it was released it is removed now, and a failure is only
logged. What it still holds goes last. -/
def abandon (w : Workspace) : Work σ Unit :=
  if w.released then dropOrigin w.origin
  else do
    let (outcome, w) ← w.cleanUp
    warnOf outcome
    dropOrigin w.origin

/-- Release a working directory: remove it, unless it is kept, and then let go of it. -/
def release (w : Workspace) : Work σ Unit := do
  let (outcome, w) ← { w with released := true }.cleanUp
  w.abandon
  Act.ofExcept outcome

end

end Workspace

end AslBuild
