import AslBuild.FileSystem.Resolve
set_option autoImplicit false

/-!
# Finding programs

A program that is given by a bare name is looked for in the directories of a search path. Anything
else is a path, and is looked for there alone. A tilde in front of a directory stands for the home
of the user.

## Main definitions

* `AslBuild.Host.searchDirs` — the directories of a search path.
* `AslBuild.Host.withHome` — a directory with the tilde in front of it replaced.
* `AslBuild.Host.candidates` — the paths at which a program is looked for.
* `AslBuild.Host.findProgram` — the first of them that is a program.
-/

namespace AslBuild.Host

open FileSystem

/-- The directories of a search path. -/
def searchDirs (searchPath : String) : List Path :=
  (Text.pieces (· == ':') searchPath.toList).map fun p => ⟨String.ofList p⟩

/-- The text of a component. -/
def componentText : Path.Component → String
  | .root => "/"
  | .here => "."
  | .up => ".."
  | .name text => text

/-- A path seen from a directory, component by component and without a leading dot. -/
def fromDir (dir p : Path) : Path :=
  if p.isAbsolute then p
  else ((p.components.dropWhile (· == .here)).map componentText).foldl
    (fun path text => path.join ⟨text⟩) dir

/-- A directory with a tilde in front of it replaced by the path of the home. -/
def withHome (home : String) (dir : Path) : Path :=
  match dir.components with
  | .name "~" :: rest => (rest.map componentText).foldl (fun path text => path.join ⟨text⟩) ⟨home⟩
  | _ => dir

/-- The text of the path to a location. -/
def pathTo (loc : Location) : Path := ⟨"/" ++ "/".intercalate loc⟩

/-- Where programs are looked for by their names. -/
structure SearchPlace where
  /-- The text that lists the directories, if there is one. -/
  dirs : Option String
  /-- The home of the user; empty if there is none. -/
  home : String := ""

/-- The paths at which a program is looked for. A path of more than one component is looked for in
the working directory only, and a name in every directory of the search path. -/
def candidates (place : SearchPlace) (d : Disk) (name : String) : List Path :=
  let p : Path := ⟨name⟩
  if 1 < p.components.length then [fromDir (pathTo d.cwd) p]
  else match place.dirs with
    | none => []
    | some dirs => (searchDirs dirs).map fun dir => (withHome place.home dir).join p

/-- The first candidate that is a program. -/
def findProgram (place : SearchPlace) (d : Disk) (name : String) : Option Path :=
  if name.isEmpty then none else (candidates place d name).find? d.isProgram

end AslBuild.Host
