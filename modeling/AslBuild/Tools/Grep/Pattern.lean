import AslBuild.Text.Rich.Reader
import AslBuild.Tools.Task
set_option autoImplicit false

/-!
# Patterns for lines

## Main definitions

* `AslBuild.Tools.Grep.Notation` — how patterns are written.
* `AslBuild.Tools.Grep.Finder` — what looks for a pattern in a line.
* `AslBuild.Tools.Grep.finderOf` — what looks for some patterns.
-/

namespace AslBuild.Tools.Grep

open Text

/-- How patterns are written. -/
inductive Notation
  /-- As texts. -/
  | fixed
  /-- As expressions. -/
  | basic
  /-- As expressions in which signs have their meaning without a backslash. -/
  | extended
  /-- As rich expressions. -/
  | rich
deriving DecidableEq

/-- A pattern with the place it comes from: the name of a file and the number of a line in it. -/
structure Source where
  /-- The pattern. -/
  text : String
  /-- Where it comes from, if that is a file. -/
  place : Option (String × Nat) := none

/-- The first piece of a line, from a place on, that is looked for. -/
abbrev Finder : Type := Array Char → Nat → Option (Nat × Nat)

/-- What counts as found, besides what patterns say. -/
structure Bounds where
  /-- Whether case does not matter. -/
  ignoresCase : Bool
  /-- Whether whole lines are looked for. -/
  lines : Bool
  /-- Whether whole words are looked for. -/
  words : Bool

/-- An expression of which every match is a whole line, or a whole word. -/
def bounded (b : Bounds) (r : Regex) : Regex :=
  if b.lines then .seq (.anchor .start) (.seq r (.anchor .finish))
  else if b.words then .seq (.anchor .noWordBefore) (.seq r (.anchor .noWordAfter))
  else r

/-- A rich expression of which every match is a whole line, or a whole word. -/
def boundedRich (b : Bounds) (r : Rich) : Rich :=
  if b.lines then .seq (.anchor .start) (.seq r (.anchor .finish))
  else if b.words then .seq (.anchor .noWordBefore) (.seq r (.anchor .noWordAfter))
  else r

/-- The signs that a pattern asks to repeat, where there is nothing to repeat. -/
def looseSigns : Bool → List Char → List String
  | _, [] => []
  | _, '\\' :: _ :: cs => looseSigns false cs
  | start, c :: cs =>
    if start && (c == '*' || c == '+' || c == '?') then c.toString :: looseSigns true cs
    else if start && c == '\x7b' && (Regex.countOf { extended := true } cs).isSome then
      "\x7b...\x7d" :: looseSigns true cs
    else looseSigns (c == '(' || c == '|' || c == '^') cs

/-- The expression that a pattern spells. -/
def regexOf (how : Notation) (ignoresCase : Bool) (pattern : String) : Except Regex.Defect Regex :=
  if how = .fixed then .ok (Regex.ofLiteral ignoresCase pattern.toList)
  else Regex.ofChars { extended := how == .extended, ignoresCase } pattern.toList

/-- What looks for some patterns. What is wrong with them is told. -/
def regexFinder (how : Notation) (b : Bounds) (sources : List Source) : Task Finder := do
  let read ← sources.mapM fun source => do
    match regexOf how b.ignoresCase source.text with
    | .ok r => pure (some (bounded b r))
    | .error defect => do
      let lead := match source.place with
        | some (name, line) => name ++ ":" ++ toString line ++ ": "
        | none => ""
      remark (lead ++ defect.message)
      pure none
  if read.any Option.isNone then quit 2
  else
    if how != .fixed then
      if sources.any fun s => Regex.misplacesClass s.text.length s.text.toList then
        die 2 Regex.misplacedClass
    if how = .extended then
      (sources.flatMap fun s => looseSigns true s.text.toList).forM fun sign =>
        remark ("warning: " ++ sign ++ " at start of expression")
    let rs := read.filterMap id
    let r := (rs.drop 1).foldl Regex.alt (rs.headD (.one fun _ => false))
    pure fun line i => (r.findFrom line i).map fun m => (m.start, m.stop)

/-- What looks for a rich pattern. -/
def richFinder (b : Bounds) (sources : List Source) : Task Finder := do
  match sources with
  | [source] =>
    match Rich.ofChars { ignoresCase := b.ignoresCase } source.text.toList with
    | .ok r =>
      let r := boundedRich b r
      pure fun line i => (r.findFrom line i).map fun m => (m.start, m.stop)
    | .error defect => die 2 defect.message
  | _ => die 2 "the -P option only supports a single pattern"

/-- What looks for some patterns. -/
def finderOf (how : Notation) (b : Bounds) (sources : List Source) : Task Finder :=
  if how = .rich then richFinder b sources else regexFinder how b sources

end AslBuild.Tools.Grep
