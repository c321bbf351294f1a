import AslBuild.Host.Image
import AslBuild.Shell.Start
import AslBuild.Tools.Characters
import AslBuild.Tools.Circumstances
import AslBuild.Tools.Columns
import AslBuild.Tools.Compare
import AslBuild.Tools.Dump.Run
import AslBuild.Tools.Copy.Run
import AslBuild.Tools.Diff.Run
import AslBuild.Tools.Expression
import AslBuild.Tools.Find.Run
import AslBuild.Tools.Grep.Run
import AslBuild.Tools.Installing
import AslBuild.Tools.Groups
import AslBuild.Tools.Letters
import AslBuild.Tools.Links
import AslBuild.Tools.Listing.Run
import AslBuild.Tools.Making
import AslBuild.Tools.Merging
import AslBuild.Tools.Modes
import AslBuild.Tools.Neighbours
import AslBuild.Tools.Portion
import AslBuild.Tools.Removing
import AslBuild.Tools.Sed.Run
import AslBuild.Tools.Sort.Run
import AslBuild.Tools.Variables
import AslBuild.Tools.Wrapping
set_option autoImplicit false

/-!
# The programs of a host

Every host has shells, and tools that work on files and texts. They lie in a directory of their own,
which has a second name.

## Main definitions

* `AslBuild.Host.programs` — the programs that every host has.
* `AslBuild.Host.withPrograms` — files together with those of the programs.
* `AslBuild.Host.launch` — start a process.
-/

namespace AslBuild.Host

open FileSystem Tools

/-! ## Which there are -/

/-- The shells, by name. -/
def shells : List (String × Tool) :=
  [("sh", fun launch => Shell.runShell launch false),
    ("dash", fun launch => Shell.runShell launch false),
    ("bash", fun launch => Shell.runShell launch true)]

/-- The tools that make, change and remove files, by name. -/
def fileTools : List (String × Tool) :=
  [("chmod", chmod), ("cp", cp), ("install", install), ("link", link), ("ln", ln),
    ("mkdir", mkdir), ("mktemp", mktemp), ("mv", mv), ("rm", rm), ("rmdir", rmdir),
    ("touch", touch), ("truncate", truncate), ("unlink", unlink)]

/-- The tools that work on texts, by name. -/
def textTools : List (String × Tool) :=
  [("base32", base32), ("base64", base64), ("basenc", basenc), ("cat", cat), ("cmp", cmp),
    ("comm", comm), ("cut", cut), ("diff", diff), ("expand", expand), ("fold", fold),
    ("head", head), ("join", join), ("nl", nl), ("od", od), ("paste", paste), ("rev", rev),
    ("sort", sort), ("tac", tac), ("tail", tail), ("tee", tee), ("tr", tr),
    ("unexpand", unexpand), ("uniq", uniq), ("wc", wc)]

/-- The tools that look for files and tell what lies where, by name. -/
def nameTools : List (String × Tool) :=
  [("basename", basename), ("dirname", dirname), ("find", find), ("ls", ls), ("pwd", pwd),
    ("readlink", readlink), ("realpath", realpath), ("stat", stat), ("which", which)]

/-- The tools that search in texts and edit them, by name. -/
def editTools : List (String × Tool) :=
  [("egrep", Grep.wrapped .extended), ("fgrep", Grep.wrapped .fixed), ("grep", grep), ("sed", sed)]

/-- The tools that print and test values, by name. -/
def valueTools : List (String × Tool) :=
  [("[", bracket), ("echo", echo), ("expr", expr), ("false", false_), ("printf", printf),
    ("seq", seq), ("sleep", sleep), ("test", test), ("true", true_), ("yes", yes)]

/-- The tools that run other programs, by name. -/
def commandTools : List (String × Tool) :=
  [("env", env), ("nice", nice), ("nohup", nohup), ("printenv", printenv), ("setsid", setsid),
    ("stdbuf", stdbuf), ("timeout", timeout), ("xargs", xargs)]

/-- The programs that every host has, by name. -/
def programs : List (String × Tool) :=
  shells ++ fileTools ++ textTools ++ nameTools ++ editTools ++ valueTools ++ commandTools

/-! ## Where they lie -/

/-- The directory that the programs lie in. -/
def programPlace : Location := ["usr", "bin"]

/-- The mode of the files of programs. -/
def programMode : Nat := 0o555

/-- The directories, links and devices that every host has. -/
def furniture : List (Location × Entry) :=
  [(["usr"], .dir lockedMode), (["usr", "bin"], .dir lockedMode), (["bin"], .link "usr/bin"),
    (["dev"], .dir lockedMode), (["dev", "null"], .device .null), (["dev", "zero"], .device .zero),
    (["dev", "full"], .device .full), (["dev", "tty"], .device .terminal),
    (["tmp"], .dir 0o1777)]

/-- Files together with those of the programs. -/
def withPrograms (t : Tree) : Tree :=
  { t with entries := t.entries ++ furniture ++
      programs.map fun p => (programPlace ++ [p.1], .file (compiledFile p.1) programMode) }

/-! ## Starting them -/

/-- Start a process, where processes may start others so many levels deep. -/
def launchUpTo : Nat → Launch
  | 0, _ => pure (.error (.os .tryAgain))
  | n + 1, start => fun m =>
    match compiledAt (m.disk start.process) interpreterLimit start with
    | .error e => (.error e, m)
    | .ok (name, start) =>
      match programs.lookup name with
      | none => (.error (.os .execFormat), m)
      | some program =>
        let (ending, m) := program (launchUpTo n) start m
        (.ok ending, m)

/-- How deep processes may be nested. -/
def processLimit : Nat := 1000

/-- Start a process. -/
def launch : Launch := launchUpTo processLimit

end AslBuild.Host
