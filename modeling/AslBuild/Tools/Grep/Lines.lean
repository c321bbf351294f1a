import AslBuild.Tools.Grep.Pattern
import AslBuild.Tools.Option
set_option autoImplicit false

/-!
# Searching the lines of a text

## Main definitions

* `AslBuild.Tools.Grep.Palette` — the colors of what is shown.
* `AslBuild.Tools.Grep.Palette.ofText` — the colors that a text asks for.
* `AslBuild.Tools.Grep.Query` — what is searched for, and how what is found is shown.
* `AslBuild.Tools.Grep.Query.shown` — how a line is shown.
* `AslBuild.Tools.Grep.searchText` — search a text.
-/

namespace AslBuild.Tools.Grep

open Text

/-! ## Colors for what is found -/

/-- The colors of what is shown. An empty color changes nothing. -/
structure Palette where
  /-- What is found in lines that are looked for. -/
  found : String := "01;31"
  /-- What is found in lines around those. -/
  foundAround : String := "01;31"
  /-- Lines that are looked for. -/
  line : String := ""
  /-- Lines around those. -/
  lineAround : String := ""
  /-- Names of files. -/
  name : String := "35"
  /-- Numbers of lines. -/
  number : String := "32"
  /-- Places in files. -/
  place : String := "32"
  /-- Signs between all those. -/
  sign : String := "36"
  /-- Whether lines that are looked for and lines around those have each other's color if lines are
  shown in which nothing is found. -/
  swaps : Bool := false
  /-- Whether the rest of the line on the screen has the color as well. -/
  erases : Bool := true

namespace Palette

/-- What switches a color on; nothing for an empty color. -/
def start (p : Palette) (color : String) : String :=
  if color.isEmpty then "" else "\x1b[" ++ color ++ "m" ++ if p.erases then "\x1b[K" else ""

/-- What switches a color off. -/
def stop (p : Palette) (color : String) : String :=
  if color.isEmpty then "" else "\x1b[m" ++ if p.erases then "\x1b[K" else ""

/-- A text in a color. -/
def paint (p : Palette) (color text : String) : String := p.start color ++ text ++ p.stop color

/-- The colors with what a name and perhaps a value say. -/
def set (p : Palette) (name : String) (value : Option String) : Palette :=
  match name, value with
  | "mt", some v => { p with found := v, foundAround := v }
  | "mt", none => { p with foundAround := p.found }
  | "ms", some v => { p with found := v }
  | "mc", some v => { p with foundAround := v }
  | "sl", some v => { p with line := v }
  | "cx", some v => { p with lineAround := v }
  | "fn", some v => { p with name := v }
  | "ln", some v => { p with number := v }
  | "bn", some v => { p with place := v }
  | "se", some v => { p with sign := v }
  | "rv", _ => { p with swaps := true }
  | "ne", _ => { p with erases := false }
  | _, _ => p

/-- The colors with what items say, up to the first one that makes no sense. -/
def setAll (p : Palette) : List String → Palette
  | [] => p
  | item :: items =>
    match item.splitOn "=" with
    | [name] => (p.set name none).setAll items
    | [name, value] =>
      if name.isEmpty || !value.toList.all fun c => c.isDigit || c == ';' then p
      else (p.set name (some value)).setAll items
    | _ => p

/-- The colors that a text asks for. -/
def ofText (text : String) : Palette :=
  if text.isEmpty then {} else ({} : Palette).setAll (text.splitOn ":")

end Palette

/-! ## Queries -/

/-- How texts are treated that are not for reading. -/
inductive BinaryManner
  /-- It is told that something was found. -/
  | tell
  /-- As all others. -/
  | show
  /-- As if nothing was found. -/
  | skip
deriving DecidableEq

/-- What is searched for, and how what is found is shown. -/
structure Query where
  /-- The options. -/
  given : Given
  /-- What looks for a piece of a line. -/
  find : Finder
  /-- How many lines in front of one that is found are shown. -/
  before : Option Nat
  /-- How many lines behind one that is found are shown. -/
  after : Option Nat
  /-- How many lines are looked for in every file. -/
  most : Option Nat
  /-- What is shown between lines that do not follow each other. -/
  separator : Option String
  /-- How texts are treated that are not for reading. -/
  binary : BinaryManner
  /-- The colors. -/
  palette : Option Palette
  /-- Whether names are shown. -/
  named : Bool
  /-- The name of the input. -/
  label : String

/-- A line that was read. -/
structure Line where
  /-- Its number. -/
  number : Nat
  /-- The number of bytes in front of it. -/
  offset : Nat
  /-- Its characters. -/
  text : Array Char

/-- Lines with their numbers and places. -/
def numbered : Nat → Nat → List String → List Line
  | _, _, [] => []
  | number, offset, text :: rest =>
    { number, offset, text := text.toList.toArray } ::
      numbered (number + 1) (offset + text.length + 1) rest

namespace Query

/-- Whether an option was given. -/
def has (q : Query) (c : Char) : Bool := q.given.has c

/-- Whether lines are looked for in which nothing is found. -/
def inverts (q : Query) : Bool := q.has 'v'

/-- Whether a line is one that is looked for. -/
def selects (q : Query) (line : Line) : Bool := (q.find line.text 0).isSome != q.inverts

/-- The end of a line. -/
def finish (q : Query) : String := if q.has 'z' then "\x00" else "\n"

/-- A text in a color, if there are colors. -/
def paint (q : Query) (color : Palette → String) (text : String) : String :=
  match q.palette with
  | some p => p.paint (color p) text
  | none => text

/-- A sign between two parts of what is shown. -/
def sign (q : Query) (sign : String) : String := q.paint Palette.sign sign

/-- The name of a file, and a sign behind it. -/
def nameWith (q : Query) (name sign : String) : String :=
  q.paint Palette.name name ++ (if q.has 'Z' then "\x00" else q.sign sign)

/-- What is shown in front of a line, or of a piece of it. `isEmpty` tells that it has no text. -/
def head (q : Query) (name sign : String) (number offset : Nat) (isEmpty : Bool) : String :=
  let parts := (if q.named then [q.nameWith name sign] else []) ++
    (if q.has 'n' then [q.paint Palette.number (toString number) ++ q.sign sign] else []) ++
    (if q.has 'b' then [q.paint Palette.place (toString offset) ++ q.sign sign] else [])
  String.join parts ++ if q.has 'T' && !parts.isEmpty && !isEmpty then "\t" else ""

/-- The pieces of a line that are found, from a place on; empty ones are left out. At most so many
are looked for. -/
def pieces (q : Query) (cs : Array Char) : Nat → Nat → List (Nat × Nat)
  | 0, _ => []
  | n + 1, i =>
    if cs.size ≤ i then []
    else match q.find cs i with
      | none => []
      | some (start, stop) =>
        if stop ≤ start then pieces q cs n (start + 1)
        else (start, stop) :: pieces q cs n stop

/-- A piece of a line. -/
def piece (line : Line) (start stop : Nat) : String := String.ofList (pieceOf line.text start stop)

/-- A line with the pieces in colors that are found, and what is left behind the last one. -/
def painted (p : Palette) (lineColor color : String) (line : Line) :
    Nat → List (Nat × Nat) → String × Nat
  | i, [] => ("", i)
  | i, (start, stop) :: more =>
    let (rest, last) := painted p lineColor color line stop more
    (p.start lineColor ++ piece line i start ++ p.paint color (piece line start stop) ++ rest, last)

/-- The text of a line as it is shown. -/
def body (q : Query) (found : Bool) (line : Line) : String :=
  let all := piece line 0 line.text.size
  match q.palette with
  | none => all
  | some p =>
    let main := found != (q.inverts && p.swaps)
    let lineColor := if main then p.line else p.lineAround
    let color := if found then p.found else p.foundAround
    let (lead, i) :=
      if found != q.inverts && !color.isEmpty then
        painted p lineColor color line 0 (q.pieces line.text (line.text.size + 1) 0)
      else ("", 0)
    let size := line.text.size
    let size := if line.text.back? = some '\r' then size - 1 else size
    if lineColor.isEmpty then lead ++ piece line i line.text.size
    else if i < size then
      lead ++ p.paint lineColor (piece line i size) ++ piece line size line.text.size
    else lead ++ piece line i line.text.size

/-- A line as it is shown, or the pieces of it that are found. `found` tells whether it is one that is
looked for, not one around it. -/
def shown (q : Query) (name : String) (found : Bool) (line : Line) : String :=
  let sign := if found then ":" else "-"
  if q.has 'o' then
    if found == q.inverts then ""
    else
      let color (p : Palette) : String := if found then p.found else p.foundAround
      String.join ((q.pieces line.text (line.text.size + 1) 0).map fun (start, stop) =>
        q.head name sign line.number (line.offset + start) false ++
          q.paint color (piece line start stop) ++ q.finish)
  else
    q.head name sign line.number line.offset line.text.isEmpty ++ q.body found line ++ q.finish

/-- What is shown between lines that do not follow each other. -/
def gap (q : Query) : String :=
  match q.separator with
  | some text => q.paint Palette.sign text ++ "\n"
  | none => ""

/-- Whether no lines are shown. -/
def isQuiet (q : Query) : Bool := q.has 'q' || q.has 'l' || q.has 'L' || q.has 'c'

/-- Whether it is enough to find one line. -/
def isDoneAtFirst (q : Query) : Bool := q.has 'q' || q.has 'l' || q.has 'L'

end Query

/-- Where a search stands. -/
structure Progress where
  /-- What is printed, the last of it first. -/
  out : List String := []
  /-- How many lines were found. -/
  found : Nat := 0
  /-- The lines in front that may still be shown, the last one first. -/
  waiting : List Line := []
  /-- How many lines are still shown behind one that was found. -/
  trailing : Nat := 0
  /-- The number of the line that was shown last. -/
  last : Nat := 0
  /-- Whether anything was shown, in this text or an earlier one. -/
  any : Bool
  /-- Where the last line ends that was found. -/
  stop : Nat := 0

/-- The step of a search with one line. -/
def searchLine (q : Query) (name : String) (p : Progress) (line : Line) : Progress :=
  let done := q.most.any (· ≤ p.found)
  if !done && q.selects line then
    let lead := p.waiting.reverse
    let first := (lead.head?.map (·.number)).getD line.number
    let gap := (q.before.isSome || q.after.isSome) && p.any && (p.last = 0 || first != p.last + 1)
    let texts := (if gap then [q.gap] else []) ++ lead.map (q.shown name false) ++
      [q.shown name true line]
    { out := texts.reverse ++ p.out, found := p.found + 1, waiting := [], trailing := q.after.getD 0
      last := line.number, any := true, stop := line.offset + line.text.size + 1 }
  else if 0 < p.trailing then
    { p with out := q.shown name false line :: p.out, trailing := p.trailing - 1
             last := line.number }
  else if done then p
  else { p with waiting := (line :: p.waiting).take (q.before.getD 0) }

/-- Whether a text is not for reading. -/
def isBinary (q : Query) (text : String) : Bool :=
  q.binary != .show && !q.has 'z' && text.toList.contains (Char.ofNat 0)

/-- What a search of a text brought. -/
structure Outcome where
  /-- How many lines were found. -/
  found : Nat
  /-- Whether anything was shown, in this text or an earlier one. -/
  any : Bool
  /-- What stands behind the last line that was found. -/
  rest : String

/-- Search a text. Whether anything was shown before is given. -/
def searchText (q : Query) (any : Bool) (name text : String) : Task Outcome := do
  let binary := isBinary q text
  let seen := if binary then text.map fun c => if c = Char.ofNat 0 then '\n' else c else text
  let pieces := seen.splitOn q.finish
  let lines := numbered 1 0 (if pieces.getLast? = some "" then pieces.dropLast else pieces)
  let p := if binary && q.binary = .skip then { any }
    else lines.foldl (searchLine q name) { any }
  if q.has 'q' then pure ()
  else if q.has 'l' || q.has 'L' then
    let wanted := if q.given.last? ['l', 'L'] = some 'l' then 0 < p.found else p.found = 0
    if wanted then
      sayOr 2 (q.paint Palette.name name ++ if q.has 'Z' then "\x00" else "\n")
  else if q.has 'c' then
    sayOr 2 ((if q.named then q.nameWith name ":" else "") ++ toString p.found ++ "\n")
  else if binary then
    if 0 < p.found then remark (name ++ ": binary file matches")
  else sayOr 2 (String.join p.out.reverse)
  pure { found := p.found, any := if q.isQuiet || binary then any else p.any
         rest := (text.drop p.stop).toString }

end AslBuild.Tools.Grep
