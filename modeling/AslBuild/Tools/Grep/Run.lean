import AslBuild.Shell.Pattern
import AslBuild.Tools.Amount
import AslBuild.Tools.Paths
import AslBuild.Tools.Grep.Lines
import AslBuild.Tools.Text
set_option autoImplicit false

/-!
# Searching files

## Main definitions

* `AslBuild.Tools.Grep.Sieve` — which names are looked at.
* `AslBuild.Tools.Grep.searchAll` — search files one after the other.
* `AslBuild.Tools.grep` — print the lines in which patterns are found.
-/

namespace AslBuild.Tools

open FileSystem Host Text

namespace Grep

/-- The options of the tool. -/
def choices : Choices where
  letters := "#A:B:C:D:EFGHILPTUVX:abcd:e:f:hiLlm:noqRrsuvwxyZz"
  words := [("basic-regexp", 'G'), ("extended-regexp", 'E'), ("fixed-regexp", 'F'),
    ("fixed-strings", 'F'), ("perl-regexp", 'P'), ("after-context", 'A'), ("before-context", 'B'),
    ("binary-files:", 't'), ("byte-offset", 'b'), ("context", 'C'), ("color::", '%'),
    ("colour::", '%'), ("count", 'c'), ("devices", 'D'), ("directories", 'd'), ("exclude:", '-'),
    ("exclude-from:", '<'), ("exclude-dir:", '/'), ("file", 'f'), ("files-with-matches", 'l'),
    ("files-without-match", 'L'), ("group-separator:", '|'), ("help", helpLetter), ("include:", '+'),
    ("ignore-case", 'i'), ("no-ignore-case", 'N'), ("initial-tab", 'T'), ("label:", '='),
    ("line-buffered", 'p'), ("line-number", 'n'), ("line-regexp", 'x'), ("max-count", 'm'),
    ("no-filename", 'h'), ("no-group-separator", '&'), ("no-messages", 's'), ("null", 'Z'),
    ("null-data", 'z'), ("only-matching", 'o'), ("quiet", 'q'), ("recursive", 'r'),
    ("dereference-recursive", 'R'), ("regexp", 'e'), ("invert-match", 'v'), ("silent", 'q'),
    ("text", 'a'), ("binary", 'U'), ("unix-byte-offsets", 'u'), ("version", versionLetter),
    ("with-filename", 'H'), ("word-regexp", 'w')]
  trouble := 2
  hint := "Usage: grep [OPTION]... PATTERNS [FILE]...\n"

/-! ## What the options say -/

/-- The number that an option about lines around others is given. -/
def contextOf (text : Option String) : Task (Option Nat) := do
  match text with
  | none => pure none
  | some text =>
    match digits? text with
    | some n => pure (some n)
    | none => die 2 (text ++ ": invalid context length argument")

/-- The patterns that options hold. -/
def sourcesOf (options : List (Char × String)) : Task (List Source) := do
  let parts ← options.mapM fun (letter, value) => do
    if letter = 'e' then pure ((value.splitOn "\n").map fun text => ({ text } : Source))
    else if letter = 'f' then
      match ← textOf value with
      | .ok text =>
        pure (((linesOf text).zipIdx 1).map fun (text, line) => { text, place := some (value, line) })
      | .error e => die 2 (value ++ ": " ++ reasonOf e)
    else pure []
  pure parts.flatten

/-- How patterns are written that options ask for. -/
def notationOf (usual : Option Notation) (options : List (Char × String)) : Task Notation := do
  let asked ← options.filterMapM fun (letter, value) => do
    match letter, value with
    | 'E', _ => pure (some Notation.extended)
    | 'F', _ => pure (some .fixed)
    | 'G', _ => pure (some .basic)
    | 'P', _ => pure (some .rich)
    | 'X', "grep" => pure (some .basic)
    | 'X', "egrep" | 'X', "awk" | 'X', "gawk" | 'X', "posixawk" => pure (some .extended)
    | 'X', "fgrep" => pure (some .fixed)
    | 'X', "perl" => pure (some .rich)
    | 'X', other => die 2 ("invalid matcher " ++ other)
    | _, _ => pure none
  match usual.toList ++ asked with
  | [] => pure .basic
  | first :: others =>
    if others.all (· == first) then pure first else die 2 "conflicting matchers specified"

/-- The colors that are asked for. -/
def paletteOf (g : Given) : Task (Option Palette) := do
  match (g.value? '%').getD "never" with
  | "always" | "yes" | "force" =>
    let value (name : String) : Task String := do
      pure (((← Act.read).process.value? name).getD "")
    let old ← value "GREP_COLOR"
    let new ← value "GREP_COLORS"
    if !new.isEmpty || old.isEmpty then pure (some (Palette.ofText new))
    else
      remark ("warning: GREP_COLOR='" ++ old ++ "' is deprecated; use GREP_COLORS='mt=" ++ old ++ "'")
      pure (some (Palette.ofText ("mt=" ++ old)))
  | "never" | "no" | "none" | "auto" | "tty" | "if-tty" | "" => pure none
  | _ => do
    say choices.hint
    quit 2

/-- What is done with directories. -/
inductive DirManner
  | read
  | descend
  | skip
deriving DecidableEq

/-- What is done with directories that options ask for. -/
def dirMannerOf (options : List (Char × String)) : Task DirManner := do
  let asked ← options.filterMapM fun (letter, value) => do
    match letter with
    | 'r' | 'R' => pure (some DirManner.descend)
    | 'd' => do
      pure (some (← wordWith choices.hint 2 "--directories"
        [(["read"], DirManner.read), (["recurse"], .descend), (["skip"], .skip)] value))
    | _ => pure none
  pure (asked.getLast?.getD .read)

/-! ## Names -/

/-- Whether a name fits a pattern for names. -/
def fitsName (pattern name : String) : Bool :=
  Shell.fits (Shell.globs {} (pattern.toList.map fun c => (c, false))) name.toList

/-- Whether a path, or an end of it behind a slash, fits a pattern for names. -/
def fitsPath (pattern path : String) : Bool :=
  let pieces := path.splitOn "/"
  (List.range pieces.length).any fun n => fitsName pattern ("/".intercalate (pieces.drop n))

/-- Which names are looked at. -/
structure Sieve where
  /-- Patterns for files, each with whether they are wanted. The last one that fits counts. -/
  patterns : List (Bool × String)
  /-- Patterns for directories that are not wanted. -/
  dirs : List String

/-- Whether a file is looked at. `fits` tells whether a pattern fits it. -/
def Sieve.keepsFile (s : Sieve) (fits : String → Bool) : Bool :=
  match s.patterns.reverse.find? fun p => fits p.2, s.patterns.head? with
  | some (wanted, _), _ => wanted
  | none, some (wanted, _) => !wanted
  | none, none => true

/-- Whether a directory is looked at. -/
def Sieve.keepsDir (s : Sieve) (fits : String → Bool) : Bool := !s.dirs.any fits

/-! ## Searching -/

/-- What a search of files brought. -/
structure Tally where
  /-- How many lines were found. -/
  found : Nat := 0
  /-- Whether anything was shown. -/
  any : Bool := false

/-- Complain about a file. -/
def complain (q : Query) (path : String) (message : String) : Task Unit := do
  if !q.has 's' then remark (path ++ ": " ++ message)
  mark 2

/-- Whether the output is a file that is read as well. -/
def readsOutput (q : Query) (path : String) : Task Bool := do
  if q.isQuiet || q.most == some 1 || q.most == some 0 then pure false
  else if path = "-" then feedsItself path
  else
    match (← channelOf 1).map Channel.target, (← files).stat (pathOf path) with
    | some (.file out), .ok (loc, .file ..) =>
      pure (isOneFile (← files).tree loc out)
    | _, _ => pure false

/-- Search a file. -/
def searchFile (q : Query) (t : Tally) (path : String) : Task Tally := do
  let name := if path = "-" then q.label else path
  let circular ← readsOutput q path
  match ← textOf path with
  | .ok text =>
    if circular then
      complain q name "input file is also the output"
      pure t
    else
      let found ← searchText q t.any name text
      if path = "-" && q.most.any (· ≤ found.found) then giveBack found.rest
      pure { found := t.found + found.found, any := found.any }
  | .error e => do
    complain q name (reasonOf e)
    pure t

/-- Search a file and those below it, directories so many levels deep. `top` tells that the path was
given. -/
def searchBelow (q : Query) (sieve : Sieve) (follow : Bool) :
    Nat → Bool → Tally → String → Task Tally
  | 0, _, t, _ => pure t
  | n + 1, top, t, path => do
    let fits (pattern : String) : Bool :=
      if top then fitsPath pattern path else fitsName pattern (lastName path)
    let found ← if top || follow then entryAt path else entryHere path
    let shown := if path.startsWith "./" && q.given.operands.length ≤ 1 && q.has '.' then
        (path.drop 2).toString
      else path
    match found with
    | .ok (.dir _) =>
      if !sieve.keepsDir fits && !(top && q.has '.') then pure t
      else
        let inner := { q with named := q.named || !q.has 'h' }
        match ← namesIn path with
        | .error e => do
          complain q shown (reasonOf e)
          pure t
        | .ok names =>
          names.foldlM (fun t name => searchBelow inner sieve follow n false t (inside path name)) t
    | .ok (.link _) => pure t
    | .ok (.device _) => if top then searchFile q t path else pure t
    | .ok (.file ..) =>
      if sieve.keepsFile fits then searchFile q t shown else pure t
    | .error e => do
      complain q shown (reasonOf e)
      pure t

/-- Search a file that was given. -/
def searchGiven (q : Query) (sieve : Sieve) (dirs : DirManner) (follow : Bool) (t : Tally)
    (path : String) : Task Tally := do
  if path = "-" then searchFile q t path
  else if dirs = .descend then searchBelow q sieve follow depthLimit true t path
  else
    match ← entryAt path with
    | .ok (.dir _) =>
      if dirs = .skip || !sieve.keepsDir (fitsPath · path) then pure t
      else searchFile q t path
    | .ok (.device _) =>
      if q.given.value? 'D' == some "skip" || !sieve.keepsFile (fitsPath · path) then pure t
      else searchFile q t path
    | .ok _ => if sieve.keepsFile (fitsPath · path) then searchFile q t path else pure t
    | .error _ => searchFile q t path

/-- Search the files that were given, one after the other. -/
def searchAll (q : Query) (sieve : Sieve) (dirs : DirManner) (follow : Bool) :
    Tally → List String → Task Tally
  | t, [] => pure t
  | t, path :: paths => do
    if q.has 'q' && 0 < t.found then pure t
    else searchAll q sieve dirs follow (← searchGiven q sieve dirs follow t path) paths

/-- The patterns and the paths among the arguments. -/
def sourcesAndPaths (g : Given) : Task (List Source × List String) := do
  if g.has 'e' || g.has 'f' then pure (← sourcesOf g.options, g.operands)
  else match g.operands with
    | pattern :: paths => pure ((pattern.splitOn "\n").map fun text => { text }, paths)
    | [] => do
      tell choices.hint
      advise 2

/-- The sieve that options ask for. -/
def sieveOf (options : List (Char × String)) : Task Sieve := do
  let patterns ← options.mapM fun (letter, value) => do
    match letter with
    | '+' => pure [(true, value)]
    | '-' => pure [(false, value)]
    | '<' =>
      match ← textOf value with
      | .ok text => pure ((linesOf text).map fun line => (false, line))
      | .error e => die 2 (value ++ ": " ++ reasonOf e)
    | _ => pure []
  let dirs := options.filter fun o => o.1 == '/'
  pure { patterns := patterns.flatten, dirs := dirs.map fun o => withoutSlashes o.2 }

/-- Search for patterns that are written in a way, if options do not say otherwise. -/
def tool (usual : Option Notation) : Tool := .ofTask fun args => do
  let g ← given choices args
  let palette ← paletteOf g
  let how ← notationOf usual g.options
  if !(g.value? 'D').all fun word => word = "read" || word = "skip" then
    die 2 "unknown devices method"
  let dirs ← dirMannerOf g.options
  let binary ← match g.options.reverse.find? fun o => "aItU".toList.contains o.1 with
    | some ('a', _) => pure BinaryManner.show
    | some ('I', _) => pure .skip
    | some ('t', "text") => pure .show
    | some ('t', "without-match") => pure .skip
    | some ('t', "binary") => pure .tell
    | some ('t', _) => die 2 "unknown binary-files type"
    | _ => pure .tell
  let before ← contextOf (g.value? 'B')
  let after ← contextOf (g.value? 'A')
  let around ← contextOf ((g.options.reverse.find? fun o => o.1 == 'C' || o.1 == '#').map (·.2))
  let most ← match g.value? 'm' with
    | none => pure none
    | some text =>
      match digits? text, digits? (text.drop 1).toString with
      | some n, _ => pure (some n)
      | none, some _ => if text.startsWith "-" then pure none else die 2 "invalid max count"
      | none, none => die 2 "invalid max count"
  if g.has 'u' then remark "warning: --unix-byte-offsets (-u) is obsolete"
  let sieve ← sieveOf g.options
  let (sources, paths) ← sourcesAndPaths g
  let ignoresCase := match g.last? ['i', 'y', 'N'] with
    | some 'N' | none => false
    | some _ => true
  let find ← finderOf how { ignoresCase, lines := g.has 'x', words := g.has 'w' } sources
  if (most == some 0 || (sources.isEmpty && !g.has 'v')) && g.last? ['l', 'L'] != some 'L' then
    quit 1
  let bare := dirs = .descend && paths.isEmpty
  let named := match g.last? ['H', 'h'] with
    | some 'H' => true
    | some _ => false
    | none => 1 < paths.length
  let separator := match g.options.reverse.find? fun o => o.1 == '|' || o.1 == '&' with
    | some ('|', text) => some text
    | some _ => none
    | none => some "--"
  let q : Query :=
    { given := if bare then { g with options := g.options ++ [('.', "")] } else g
      find, most, separator, binary, palette, named
      before := before.or around, after := after.or around
      label := (g.value? '=').getD "(standard input)" }
  let follow := match g.last? ['r', 'R'] with
    | some 'R' => true
    | _ => false
  let t ← searchAll q sieve dirs follow {} (if bare then ["."] else orInput paths)
  let status := (← Act.read).status
  if 0 < t.found then
    if g.has 'q' then quit 0 else quit status
  else quit (max status 1)

/-- The same tool, run by another one under its own name. -/
def wrapped (how : Notation) : Tool := fun launch start =>
  tool (some how) launch { start with name := "grep" }

end Grep

/-- Print the lines in which patterns are found. -/
def grep : Tool := Grep.tool none

end AslBuild.Tools
