import AslBuild.CommandLine.Invocation
import AslBuild.Host.Programs
set_option autoImplicit false

/-!
# The program

The program looks at the files once, does its work on what it saw, and then makes the files what
they have become. A file counts as one that may be executed if its first line names an interpreter.
Links are not looked at.

## Main definitions

* `AslBuild.Main.observe` — the files below a directory.
* `AslBuild.Main.settle` — make the files what they have become.
* `main` — the program.
-/

namespace AslBuild.Main

open FileSystem CommandLine

/-- The mode of a file: it may be executed if it starts with the name of an interpreter. -/
def modeOf (contents : List UInt8) : Nat :=
  match contents with
  | 0x23 :: 0x21 :: _ => 0o755
  | _ => 0o644

/-- The mode of a directory. -/
def usualDirMode : Nat := 0o755

/-- The location of an absolute path. -/
def locationOf (path : String) : Location := namesOf path.toList

/-- The directories on the way to a location, and the one there. -/
def waysTo (loc : Location) : List (Location × Entry) :=
  (List.range loc.length).map fun n => (loc.take (n + 1), .dir usualDirMode)

/-- The files in some directories, so many levels deep. -/
def observe : Nat → List Location → IO (List (Location × Entry))
  | 0, _ => pure []
  | depth + 1, dirs => do
    let mut entries := []
    let mut below := []
    for dir in dirs do
      let place ← IO.FS.realPath (Host.pathTo dir).text
      for entry in ← place.readDir do
        let loc := dir ++ [entry.fileName]
        match (← entry.path.symlinkMetadata).type with
        | .dir =>
          entries := (loc, .dir usualDirMode) :: entries
          below := loc :: below
        | .file =>
          let contents := (← IO.FS.readBinFile entry.path).toList
          entries := (loc, .file contents (modeOf contents)) :: entries
        | _ => pure ()
    pure (entries ++ (← if below.isEmpty then pure [] else observe depth below))

/-- Make one entry what it has become. -/
def settleEntry (loc : Location) (e : Entry) : IO Unit :=
  let path := (Host.pathTo loc).text
  match e with
  | .dir _ => IO.FS.createDirAll path
  | .file contents _ => IO.FS.writeBinFile path ⟨contents.toArray⟩
  | .link _ | .device _ => pure ()

/-- Remove one entry. -/
def removeEntry (loc : Location) (e : Entry) : IO Unit :=
  let path := (Host.pathTo loc).text
  match e with
  | .dir _ => IO.FS.removeDirAll path
  | _ => IO.FS.removeFile path

/-- Make the files what they have become. A directory comes before what is in it, and what is in a
directory that is gone is gone with it. -/
def settle (before after : Tree) : IO Unit := do
  let gone := before.entries.filter fun x => (after.get? x.1).isNone
  for (loc, e) in gone do
    if (after.get? loc.dropLast).isSome then removeEntry loc e
  let changed := after.entries.filter fun x => before.get? x.1 != some x.2
  for (loc, e) in changed.mergeSort fun x y => x.1.length ≤ y.1.length do
    settleEntry loc e

/-- The variables that the program reads. -/
def readVariables : IO Environment := do
  let mut env := Environment.empty
  for name in Threshold.variableName :: Environment.captured do
    if let some value ← IO.getEnv name then env := env.set name value
  pure env

/-- How deep the files are looked at. -/
def depthLimit : Nat := 64

/-- Do the work of the program. -/
def perform (words : List String) : IO UInt32 := do
  let cwd := locationOf (← IO.currentDir).toString
  let temp := (← IO.getEnv "TMPDIR").getD "/tmp"
  let entries ← observe depthLimit [cwd]
  let tree := Host.withPrograms { entries := entries ++ waysTo cwd ++ waysTo (locationOf temp) }
  let surroundings : Surroundings := {
    disk := { tree, cwd, temp := ⟨temp⟩ }
    environment := ← readVariables
    programDir := ⟨(← IO.appDir).toString⟩ }
  let outcome := invoke Host.launch surroundings words
  settle tree outcome.disk.tree
  (← IO.getStdout).write ⟨outcome.out.toArray⟩
  (← IO.getStderr).write ⟨outcome.err.toArray⟩
  pure (UInt32.ofNat outcome.status)

end AslBuild.Main

/-- The program, with the words of its command line. -/
def main (words : List String) : IO UInt32 := AslBuild.Main.perform words
