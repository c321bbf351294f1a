import AslBuild.Tools.Amount
import AslBuild.Tools.Paths
set_option autoImplicit false

/-!
# Copies that are kept

Before a file is replaced it may be kept under another name, which is made from its own by a suffix
or by a number.

## Main definitions

* `AslBuild.Tools.Keeping` — how the other names are made.
* `AslBuild.Tools.keepingOf` — what options ask for.
* `AslBuild.Tools.Keeping.path`, `AslBuild.Tools.Keeping.keep` — where a file is kept, and keep it.
-/

namespace AslBuild.Tools

open FileSystem Host Text

/-- How names of files that are kept are made. -/
inductive NameRule
  /-- By a suffix. -/
  | simple
  /-- By a number. -/
  | numbered
  /-- By a number if there is a file with one already. -/
  | existing
deriving DecidableEq

/-- The words for the ways to make names, where nothing is kept for those without one. -/
def nameRules : List (List String × Option NameRule) :=
  [(["none", "off"], none), (["simple", "never"], some .simple),
    (["existing", "nil"], some .existing), (["numbered", "t"], some .numbered)]

/-- How files are kept. -/
structure Keeping where
  /-- How their names are made. -/
  rule : NameRule
  /-- The suffix of names that have no number. -/
  suffix : String
deriving DecidableEq

/-- The suffix of files that are kept. One that leads into another directory is not taken. -/
def keepingSuffix (g : Given) : Task String := do
  let usual := (← Act.read).process.value? "SIMPLE_BACKUP_SUFFIX"
  pure ((((g.value? 'S').or usual).filter fun s => !s.isEmpty && !s.toList.contains '/').getD "~")

/-- How files are kept, as the options `b` and `S` ask for it. -/
def keepingOf (g : Given) : Task (Option Keeping) := do
  if !(g.has 'b' || g.has 'S') then pure none
  else
    let asked := ((g.values 'b').filter (!·.isEmpty)).getLast?
    let usual := ((← Act.read).process.value? "VERSION_CONTROL").filter (!·.isEmpty)
    let rule ← match asked, usual with
      | some word, _ => wordOf 1 "backup type" nameRules word
      | none, some word => wordOf 1 "$VERSION_CONTROL" nameRules word
      | none, none => pure (some .existing)
    let suffix ← keepingSuffix g
    pure (rule.map fun rule => { rule, suffix })

namespace Keeping

/-- The number in the name of a file that is kept, if it is one of another file. -/
def number? (name kept : String) : Option Nat :=
  if kept.startsWith (name ++ ".~") && kept.endsWith "~" then
    digits? ((kept.drop (name.length + 2)).dropEnd 1).toString
  else none

/-- The path under which a file is kept. -/
def path (k : Keeping) (path : String) : Task String := do
  let name := lastName path
  let dir := withoutSlashes path
  let above := (dir.dropEnd name.length).toString
  let names := ((← namesIn (if above.isEmpty then "." else above)).toOption).getD []
  let numbers := names.filterMap (number? name)
  let numbered := dir ++ ".~" ++ toString (numbers.foldl max 0 + 1) ++ "~"
  pure (match k.rule with
    | .simple => dir ++ k.suffix
    | .numbered => numbered
    | .existing => if numbers.isEmpty then dir ++ k.suffix else numbered)

/-- Keep what lies at a path, and give the path that it has then. -/
def keep (k : Keeping) (path : String) : Task (Except IoError String) := do
  let kept ← k.path path
  match ← onMachine fun p => moveEntry p (pathOf path) (pathOf kept) with
  | .ok () => pure (.ok kept)
  | .error e => pure (.error e)

end Keeping

end AslBuild.Tools
