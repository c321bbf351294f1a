import AslBuild.Shell.Pattern
import AslBuild.Text.Version
import AslBuild.Tools.Listing.Options
import AslBuild.Tools.Status
set_option autoImplicit false

/-!
# Listing directories

A listing shows first the files that it was asked for, and then what is in the directories, one after
the other.

## Main definitions

* `AslBuild.Tools.Listed` — a name in a listing, and what it names.
* `AslBuild.Tools.Listing.inOrder` — names in their order.
* `AslBuild.Tools.Listing.text` — the text that shows some names.
* `AslBuild.Tools.ls` — list directories.
-/

namespace AslBuild.Tools

open FileSystem Host Text

/-! ## Names -/

/-- A name in a listing, and what it names. -/
structure Listed where
  /-- The name. -/
  name : String
  /-- The path. -/
  path : String
  /-- The location. -/
  place : Location := []
  /-- What lies there, as far as that is known. -/
  entry : Option Entry
  /-- Whether it is known to be a directory, and the letter for its kind. -/
  kind : Char
  /-- Where a link leads: what is there, if there is anything. -/
  target : Option Entry := none
  /-- When it was changed last. -/
  changed : Int := 0

namespace Listed

/-- Whether it is a directory, or a link to one. -/
def leadsToDir (x : Listed) : Bool :=
  x.kind == 'd' || match x.target with
    | some (.dir _) => true
    | _ => false

/-- The number of bytes. -/
def size (x : Listed) : Nat := (x.entry.map entrySize).getD 0

/-- The number of bytes that it takes up. -/
def space (x : Listed) : Nat :=
  match x.entry with
  | some (.dir _) => 4096
  | some (.file contents _) => (contents.length + 4095) / 4096 * 4096
  | _ => 0

/-- The ending of a name, with its dot. -/
def ending (x : Listed) : List Char :=
  let cs := x.name.toList.reverse
  let after := cs.takeWhile (· != '.')
  if after.length = cs.length then [] else '.' :: after.reverse

end Listed

/-- The sign of something whose kind and mode are given. -/
def signOf (signs : Signs) (kind : Char) (mode : Nat) : String :=
  if kind = 'd' then if signs = .none then "" else "/"
  else if signs = .none || signs = .slash then ""
  else if kind = 'l' then "@"
  else if kind = 'p' then "|"
  else if signs = .all && kind = '-' && mode &&& 0o111 != 0 then "*"
  else ""

/-- The color of something. -/
def colorOf (kind : Char) (mode : Nat) : Option String :=
  match kind with
  | 'd' =>
    some (if mode.testBit 9 && mode.testBit 1 then "30;42" else if mode.testBit 1 then "34;42"
      else if mode.testBit 9 then "37;44" else "01;34")
  | 'l' => some "01;36"
  | 'p' => some "33"
  | 'c' => some "01;33"
  | '-' =>
    if mode.testBit 11 then some "37;41" else if mode.testBit 10 then some "30;43"
    else if mode &&& 0o111 != 0 then some "01;32" else none
  | _ => none

namespace Listing

/-- The characters that could be taken for signs. -/
def signLike (k : Listing) : List Char :=
  match k.signs with
  | .none | .slash => []
  | .kinds => "*=>@|".toList
  | .all => "=>@|".toList

/-- A name as it is shown. -/
def shownName (k : Listing) (name : String) : String :=
  let text := k.style.apply k.signLike name
  if k.hides then
    String.ofList (text.toList.map fun c => if NameStyle.isHidden c then '?' else c)
  else text

/-! ## Order -/

/-- Whether one name comes before another, or where it does. -/
def before (k : Listing) (order : ListingOrder) (a b : Listed) : Bool :=
  let byName : Ordering := compare a.name b.name
  let o : Ordering := match order with
    | .name | .none => byName
    | .time => (compare b.changed a.changed).then byName
    | .size => (compare b.size a.size).then byName
    | .ending => (compare (String.ofList a.ending) (String.ofList b.ending)).then byName
    | .version => (compare (Version.compareNames a.name.toList b.name.toList) 0).then byName
    | .width =>
      (compare (k.shownName a.name).length (k.shownName b.name).length).then byName
  if k.reversed then o != .lt else o != .gt

/-- Names in their order. -/
def inOrder (k : Listing) (xs : List Listed) : List Listed :=
  let order := k.order.getD
    (if k.otherTime && k.form ≠ .long then .time else .name)
  let xs := if order = .none then xs else xs.mergeSort (k.before order)
  if k.dirsFirst then xs.filter Listed.leadsToDir ++ xs.filter fun x => !x.leadsToDir else xs

/-! ## Text -/

/-- The widths of what stands in front of names. -/
structure Widths where
  number : Nat := 0
  blocks : Nat := 0
  links : Nat := 0
  owner : Nat := 0
  size : Nat := 0
  major : Nat := 0
  minor : Nat := 0

/-- The owner of something. -/
def ownerOf (k : Listing) (x : Listed) : String :=
  match x.entry with
  | none => "?"
  | some _ =>
    if isHosts x.place then (if k.numeric then "0" else "root")
    else if k.numeric then toString userNumber else userName

/-- The number of names of something. -/
def linksOf (t : Tree) (x : Listed) : String :=
  (x.entry.map fun e => toString (entryLinks t x.place e)).getD "?"

/-- The space that something takes up, as text. -/
def blocksOf (k : Listing) (x : Listed) : String :=
  if x.entry.isNone then "?" else k.blockUnit.text x.space

/-- The number of something, as text. -/
def numberOf (t : Tree) (x : Listed) : String :=
  if x.entry.isNone then "?" else toString (entryNumber t x.place)

/-- Whether something is a device. -/
def isDevice (x : Listed) : Bool :=
  match x.entry with
  | some (.device _) => true
  | _ => false

/-- The widths for some names. -/
def widthsFor (k : Listing) (t : Tree) (xs : List Listed) : Widths :=
  let most (xs : List Listed) (f : Listed → String) : Nat :=
    (xs.map fun x => (f x).length).foldl max 0
  let devices := xs.filter isDevice
  let numbers (x : Listed) : Nat × Nat := (x.entry.map deviceNumbers).getD (0, 0)
  let major := most devices fun x => toString (numbers x).1
  let minor := most devices fun x => toString (numbers x).2
  let sizes := most (xs.filter fun x => !isDevice x) fun x =>
    if x.entry.isNone then "?" else k.unit.text x.size
  let size := if devices.isEmpty then sizes else max sizes (major + 2 + minor)
  { number := most xs (numberOf t), blocks := most xs k.blocksOf, links := most xs (linksOf t)
    owner := most xs k.ownerOf, size
    major := major + (size - (major + 2 + minor)), minor }

/-- A name in its color. -/
def coloredName (k : Listing) (color : Option String) (text : String) : String :=
  match k.colored, color with
  | true, some code => "\x1b[" ++ code ++ "m" ++ text ++ "\x1b[0m"
  | _, _ => text

/-- A name with its sign. `aligned` tells whether names without quotes are moved so that they stand
below those with quotes. -/
def nameWithSign (k : Listing) (aligned : Bool) (x : Listed) : Cell :=
  let mode := (x.entry.map entryMode).getD 0
  let text := k.shownName x.name
  let blank := if aligned && text == x.name then " " else ""
  let sign := if k.form = .long && x.kind = 'l' then "" else signOf k.signs x.kind mode
  (blank ++ k.coloredName (colorOf x.kind mode) text ++ sign,
    blank.length + (text.toList.countP fun c => !NameStyle.isHidden c) + sign.length)

/-- What stands in front of a name in any form. -/
def frontOf (k : Listing) (t : Tree) (w : Widths) (x : Listed) : String :=
  let padded (width : Nat) (text : String) : String :=
    padLeft (if k.form = .commas then 0 else width) text ++ " "
  (if k.numbers then padded w.number (numberOf t x) else "") ++
    (if k.blocks then padded w.blocks (k.blocksOf x) else "") ++
    if k.context && k.form ≠ .long then "? " else ""

/-- What stands in front of a name in a long line. -/
def longFront (k : Listing) (t : Tree) (now : Int) (w : Widths) (x : Listed) : String :=
  let known := x.entry.isSome
  let mode := match x.entry with
    | some e => Permission.listed x.kind (shownModeOf x.place e)
    | none => x.kind.toString ++ "?????????"
  let owner := padRight w.owner (k.ownerOf x) ++ " "
  let size := match x.entry with
    | none => padLeft w.size "?"
    | some e =>
      if isDevice x then
        padLeft w.major (toString (deviceNumbers e).1) ++ ", " ++
          padLeft w.minor (toString (deviceNumbers e).2)
      else padLeft w.size (k.unit.text x.size)
  let halfYear : Int := 15778476000
  let recent := now - halfYear < x.changed && x.changed ≤ now
  let time := if known then Moment.format x.changed (if recent then k.times.2 else k.times.1)
    else padLeft (Moment.format now k.times.2).length "?"
  mode ++ " " ++ padLeft w.links (linksOf t x) ++ " " ++
    (if k.owner then owner else "") ++ (if k.group then owner else "") ++
    (if k.context then "? " else "") ++ (if k.author then owner else "") ++
    size ++ " " ++ time ++ " "

/-- Where a link leads, behind its name in a long line. -/
def linkText (k : Listing) (x : Listed) : String :=
  match x.entry with
  | some (.link target) =>
    let kind := x.target.map kindLetter
    let mode := (x.target.map entryMode).getD 0
    let name := Raw.ofText target
    let shown := if k.style.apply k.signLike x.name == x.name then name else k.shownName name
    let color := kind.bind fun kind => colorOf kind mode
    " -> " ++ k.coloredName color shown ++
      ((kind.map fun kind => signOf k.signs kind mode).getD "")
  | _ => ""

/-- The text that shows some names. -/
def text (k : Listing) (t : Tree) (now : Int) (xs : List Listed) : String :=
  let xs := k.inOrder xs
  let w := k.widthsFor t xs
  let inRows := match k.form with
    | .long => true
    | .columns _ => k.width.isSome
    | _ => false
  let aligned := inRows && xs.any (fun x => k.shownName x.name != x.name) && match k.style with
    | .shell _ false | .double false => true
    | _ => false
  let cells := xs.map fun x =>
    let front := k.frontOf t w x
    let (name, width) := k.nameWithSign aligned x
    (x, front, name, front.length + width)
  let plain := cells.map fun (_, front, name, width) => (front ++ name, width)
  if xs.isEmpty then ""
  else match k.form, k.width with
    | .long, _ =>
      String.join (cells.map fun (x, front, name, _) =>
        front ++ k.longFront t now w x ++ name ++ k.linkText x ++ k.finish.toString)
    | .lines, _ => String.join (plain.map fun c => c.1 ++ k.finish.toString)
    | .columns across, some width => inColumns across width k.tab k.finish plain
    | .columns _, none => withBlanks plain
    | .commas, width => withSign ',' width k.finish true 0 plain
where
  /-- Cells in one line. -/
  withBlanks (cells : List Cell) : String :=
    "  ".intercalate (cells.map (·.1)) ++ k.finish.toString

end Listing

/-! ## Looking -/

/-- How something is looked at. -/
structure Look where
  /-- Whether links are followed. -/
  follows : Bool
  /-- Whether links to directories are followed. -/
  onlyToDirs : Bool := false

/-- What lies at a path, as a listing of it shows it, and why it is not known if it is not. -/
def look (l : Look) (name path : String) : Task (Listed × Option IoError) := do
  let d ← files
  let here := d.lstat (pathOf path)
  let there := d.stat (pathOf path)
  let leadsToDir := isDirectory (there.map (·.2))
  let found := if l.follows || (l.onlyToDirs && leadsToDir) then there else here
  let kind := (here.toOption.map fun x => kindLetter x.2).getD '?'
  match found with
  | .ok (place, entry) =>
    let target := match entry with
      | .link _ => there.toOption.map (·.2)
      | _ => none
    pure ({ name, path, place, entry, kind := kindLetter entry, target
            changed := d.tree.changed place }, none)
  | .error e => pure ({ name, path, entry := none, kind }, some e)

/-- Whether a name fits one of some patterns. -/
def fitsAny (patterns : List String) (name : String) : Bool :=
  patterns.any fun pattern =>
    (!name.startsWith "." || pattern.startsWith ".") &&
      Shell.fits (Shell.globs {} (pattern.toList.map fun c => (c, false))) name.toList

namespace Listing

/-- Whether a name is left out. -/
def leavesOut (k : Listing) (name : String) : Bool :=
  (k.dotted == .none && (name.startsWith "." || fitsAny k.hidden name)) || fitsAny k.ignored name

/-- Whether more than names and kinds has to be known. -/
def needsAll (k : Listing) : Bool :=
  k.form == .long || k.blocks || k.order == some .time || k.order == some .size || k.otherTime

/-- The letters of the kinds of what is in a directory, which can be told without entering it. -/
def kindsIn (t : Tree) (dir : Location) (name : String) : Char :=
  ((t.get? (dir ++ [Raw.toText name])).map kindLetter).getD 'd'

/-- What is in a directory. -/
def namesFound (k : Listing) (path : String) (names : List String) : Task (List Listed) := do
  let dir := (← locationOf path).getD []
  let own := if k.dotted = .all then [".", ".."] else []
  let wanted := (own ++ names).filter fun name => !k.leavesOut name
  let always := k.following = some .all
  wanted.filterMapM fun name => do
    let kind := kindsIn (← files).tree dir name
    let asks := k.needsAll || (k.signs == .all && kind == '-') || k.colored || k.numbers ||
      (always && kind == 'l' && (k.signs != .none || k.recursive || k.dirsFirst))
    let (x, problem) ← look { follows := always } name (inside path name)
    match problem with
    | some e =>
      if asks then do
        remark ("cannot access " ++ quoted (inside path name) ++ ": " ++ reasonOf e)
        mark 1
      pure (some { x with kind })
    | none => pure (some x)

/-- The text that shows some names now. -/
def textNow (k : Listing) (xs : List Listed) : Task String := do
  let t := (← files).tree
  pure (k.text t (← Act.read).machine.tree.clock xs)

/-- Complain that a directory cannot be read. -/
def cannotOpen (top : Bool) (path : String) (e : IoError) : Task Unit := do
  remark ("cannot open directory " ++ quoted path ++ ": " ++ reasonOf e)
  mark (if top then listingTrouble else 1)

/-- List a directory, and those in it, so many levels deep. `heads` tells whether its name is put
above, and `shown` is what was shown before. All that was shown is given. -/
def listDirectory (k : Listing) : Nat → Bool → Bool → String → String → Task String
  | 0, _, _, shown, _ => pure shown
  | n + 1, top, heads, shown, path => do
    match ← namesIn path with
    | .error e => do
      cannotOpen top path e
      pure shown
    | .ok names => do
      let found ← k.namesFound path names
      let head := if heads then (if shown.isEmpty then "" else "\n") ++ k.shownName path ++ ":\n"
        else ""
      let space := (found.map Listed.space).foldl (· + ·) 0
      let total := if k.form = .long || k.blocks then
          "total " ++ k.blockUnit.text space ++ k.finish.toString
        else ""
      let shown := shown ++ head ++ total ++ (← k.textNow found)
      if !k.recursive then pure shown
      else
        let dirs := (k.inOrder found).filter fun x =>
          x.kind == 'd' && x.name != "." && x.name != ".."
        dirs.foldlM (fun shown x => k.listDirectory n false true shown x.path) shown

end Listing

/-- A text with colors starts with the usual one. -/
def withFirstColor (text : String) : String :=
  match text.splitOn "\x1b[" with
  | first :: rest@(_ :: _) => first ++ "\x1b[0m\x1b[" ++ "\x1b[".intercalate rest
  | _ => text

/-- List directories. -/
def ls : Tool := .ofTask fun args => do
  let (k, operands) ← Listing.ofArguments args
  let paths := if operands.isEmpty then ["."] else operands
  let following := k.following.getD
    (if k.themselves || k.signs = .all || k.form = .long then .none else .givenDirectories)
  let found ← paths.filterMapM fun path => do
    let l : Look :=
      { follows := following = .all || following = .given
        onlyToDirs := following = .givenDirectories }
    let (x, problem) ← look l path path
    match problem with
    | none => pure (some x)
    | some e => do
      remark ("cannot access " ++ quoted path ++ ": " ++ reasonOf e)
      mark listingTrouble
      pure none
  let shown ←
    if k.themselves then k.textNow found
    else do
      let plain ← k.textNow (found.filter fun x => x.kind != 'd')
      let dirs := k.inOrder (found.filter fun x => x.kind == 'd')
      let heads := k.recursive || 1 < operands.length
      dirs.foldlM (fun shown x => k.listDirectory depthLimit true heads shown x.path) plain
  say (if k.colored then withFirstColor shown else shown)

end AslBuild.Tools
