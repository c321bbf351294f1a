import AslBuild.Text.Regex
import AslBuild.Tools.Diff.Script
set_option autoImplicit false

/-!
# How lines are shown where two texts differ

Lines are shown with signs in front of them, and in colours if that is asked for. That a line has no
end is said below it. A change tells which lines of one text have to be put in the places of lines
of another one. Some forms of it are commands for an editor.

## Main definitions

* `AslBuild.Tools.Diff.Look` — how lines are shown.
* `AslBuild.Tools.Diff.Look.body` — a line without its end.
* `AslBuild.Tools.Diff.Look.block` — lines with signs.
* `AslBuild.Tools.Diff.Look.isTrivial` — whether hunks do not count.
* `AslBuild.Tools.Diff.span` — the numbers of some lines.
* `AslBuild.Tools.Diff.Look.change` — a hunk with the lines of both texts.
* `AslBuild.Tools.Diff.edit`, `AslBuild.Tools.Diff.forwardEdit` — a hunk as commands for an editor.
* `AslBuild.Tools.Diff.patchEdit` — a hunk as commands that count lines.
-/

namespace AslBuild.Tools.Diff

open Text

/-- How lines are shown, and which of them do not count. -/
structure Look where
  /-- Whether blanks are shown instead of tabs. -/
  expands : Bool := false
  /-- How far tabs are apart. -/
  tabSize : Nat := 8
  /-- Whether a tab stands between signs and lines. -/
  tabbed : Bool := false
  /-- Whether nothing stands in front of empty lines that both texts have. -/
  bare : Bool := false
  /-- Whether there are colours. -/
  colored : Bool := false
  /-- Whether empty lines do not count. -/
  skipsEmpty : Bool := false
  /-- Whether blanks at the ends of lines do not count, so that lines of blanks are empty. -/
  skipsBlank : Bool := false
  /-- The expressions of which one is found in every line that does not count. -/
  skipped : List Regex := []
  /-- The expressions of which one is found in every line that starts a part of a text. -/
  titles : List Regex := []

/-! ## Colours -/

/-- What a colour is for. -/
inductive Color
  | header
  | place
  | removed
  | added

/-- The sign that starts a colour. -/
def Color.start : Color → String
  | .header => "\x1b[1m"
  | .place => "\x1b[36m"
  | .removed => "\x1b[31m"
  | .added => "\x1b[32m"

namespace Look

/-- The sign that starts a colour, if there are colours. -/
def enter (k : Look) (c : Color) : String := if k.colored then c.start else ""

/-- The sign that ends a colour, if there are colours. -/
def leave (k : Look) : String := if k.colored then "\x1b[0m" else ""

/-- A text in a colour. -/
def paint (k : Look) (c : Color) (text : String) : String := k.enter c ++ text ++ k.leave

/-! ## Lines -/

/-- Characters in a column with blanks instead of tabs. Behind a return the sign is shown again. -/
def spread (k : Look) (sign : String) : Nat → List Char → String
  | _, [] => ""
  | column, c :: cs =>
    match c with
    | '\t' =>
      let blanks := k.tabSize - column % k.tabSize
      String.ofList (List.replicate blanks ' ') ++ k.spread sign (column + blanks) cs
    | '\r' => "\r" ++ (if cs.isEmpty then "" else sign) ++ k.spread sign 0 cs
    | '\x08' => if column = 0 then k.spread sign 0 cs else "\x08" ++ k.spread sign (column - 1) cs
    | c =>
      let shown := 0x20 ≤ c.toNat ∧ c.toNat < 0x7F
      c.toString ++ k.spread sign (if shown then column + 1 else column) cs

/-- A line without its end, behind a sign. -/
def body (k : Look) (sign line : String) : String :=
  let text := if line.endsWith "\n" then (line.dropEnd 1).toString else line
  if k.expands then k.spread sign 0 text.toList else text

/-- A line with its end. -/
def whole (k : Look) (line : String) : String :=
  k.body "" line ++ if line.endsWith "\n" then "\n" else ""

/-- A line without its end, and the sign in front of it. -/
def signed (k : Look) (sign line : String) : String :=
  if k.bare && line == "\n" then (if sign = " " then "" else sign)
  else
    let sign := sign ++ if k.tabbed then "\t" else " "
    sign ++ k.body sign line

/-- A line without its end, and the sign next to it; lines that both texts have a blank for one. -/
def close (k : Look) (sign line : String) : String :=
  let gap := if k.tabbed && !(k.bare && line == "\n") then "\t" else ""
  let sign := if sign = " " && (k.tabbed || (k.bare && line == "\n")) then "" else sign
  sign ++ gap ++ k.body "" line

end Look

/-- The end of a line, or what is said if it has none. -/
def lineEnd (line : String) : String :=
  if line.endsWith "\n" then "\n" else "\n\\ No newline at end of file\n"

/-- Lines, each as it is shown and with its end. -/
def rows (show_ : String → String → String) (lines : List (String × String)) : String :=
  String.join (lines.map fun (sign, line) => show_ sign line ++ lineEnd line)

/-- Lines in a colour, each with its sign. -/
def Look.block (k : Look) (c : Color) (show_ : String → String → String)
    (lines : List (String × String)) : String :=
  rows (fun sign line => k.paint c (show_ sign line)) lines

/-- Lines that all have one sign. -/
def withSign (sign : String) (lines : List String) : List (String × String) :=
  lines.map fun line => (sign, line)

/-! ## Lines that do not count -/

/-- Whether a line does not count. -/
def Look.isTrivialLine (k : Look) (line : String) : Bool :=
  let cs := if line.endsWith "\n" then line.toList.dropLast else line.toList
  let isBlank (c : Char) : Bool := c == ' ' || (0x09 ≤ c.toNat && c.toNat ≤ 0x0D)
  (k.skipsEmpty && (cs.isEmpty || (k.skipsBlank && cs.all isBlank))) ||
    k.skipped.any fun r => r.isIn cs

/-- Whether hunks hold only lines that do not count. -/
def Look.isTrivial (k : Look) (group : List Hunk) : Bool :=
  (k.skipsEmpty || !k.skipped.isEmpty) &&
    group.all fun h => (h.left ++ h.right).all k.isTrivialLine

/-! ## Numbers of lines -/

/-- The numbers of some lines that stand behind so many others. Where there are none it is the number
of the line in front. -/
def span (sign : String) (before count : Nat) : String :=
  if count ≤ 1 then toString (before + count)
  else toString (before + 1) ++ sign ++ toString (before + count)

/-- The letter for what is done to lines. -/
def letterFor (h : Hunk) : String :=
  if h.left.isEmpty then "a" else if h.right.isEmpty then "d" else "c"

/-! ## Hunks as changes -/

/-- A hunk with the lines of both texts. -/
def Look.change (k : Look) (h : Hunk) : String :=
  k.paint .place (span "," h.before h.left.length ++ letterFor h ++
      span "," h.beforeRight h.right.length) ++ "\n" ++
    k.block .removed k.signed (withSign "<" h.left) ++
    (if letterFor h = "c" then "---\n" else "") ++
    k.block .added k.signed (withSign ">" h.right)

/-- Lines that are typed into an editor, which takes a line with nothing but a point for their end.
`typing` tells whether it expects lines. -/
def typed (k : Look) (typing : Bool) : List String → String
  | [] => if typing then ".\n" else ""
  | line :: lines =>
    let start := if typing then "" else "a\n"
    if line = ".\n" then start ++ "..\n.\ns/.//\n" ++ typed k false lines
    else start ++ k.whole line ++ typed k true lines

/-- A hunk as commands for an editor. Hunks that stand behind it have to be dealt with before. -/
def edit (k : Look) (h : Hunk) : String :=
  span "," h.before h.left.length ++ letterFor h ++ "\n" ++
    if h.right.isEmpty then "" else typed k true h.right

/-- A hunk as commands for an editor, the letter first. -/
def forwardEdit (k : Look) (h : Hunk) : String :=
  letterFor h ++ span " " h.before h.left.length ++ "\n" ++
    if h.right.isEmpty then "" else String.join (h.right.map k.whole) ++ ".\n"

/-- A hunk as commands that tell how many lines are removed, and added. -/
def patchEdit (k : Look) (h : Hunk) : String :=
  (if h.left.isEmpty then ""
    else "d" ++ toString (h.before + 1) ++ " " ++ toString h.left.length ++ "\n") ++
  if h.right.isEmpty then ""
    else "a" ++ toString (h.before + h.left.length) ++ " " ++ toString h.right.length ++ "\n" ++
      String.join (h.right.map k.whole)

end AslBuild.Tools.Diff
