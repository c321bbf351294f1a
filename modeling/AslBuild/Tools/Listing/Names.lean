import AslBuild.Tools.Task
set_option autoImplicit false

/-!
# Names in listings

A listing can show a name as it is, in quotes as a shell needs them, in double quotes with escapes,
or with escapes alone. Names can be put into columns, as many as fit into a line, or one after the
other with commas between them. What is put there is given with its width.

## Main definitions

* `AslBuild.Tools.NameStyle` — the ways to show a name.
* `AslBuild.Tools.NameStyle.apply` — a name as it is shown.
* `AslBuild.Tools.columnWidths` — the widths of columns.
* `AslBuild.Tools.inColumns` — cells in as many columns as fit.
* `AslBuild.Tools.withSign` — cells one after the other.
-/

namespace AslBuild.Tools

open Text

/-- The ways to show a name. -/
inductive NameStyle
  /-- As it is. -/
  | literal
  /-- In the quotes of a shell, with escapes for what cannot be printed or without them; always, or
  where a shell needs them. -/
  | shell (escapes always : Bool)
  /-- In double quotes with escapes, always or where there would be an escape. -/
  | double (always : Bool)
  /-- With escapes, also in front of some more characters. -/
  | escapes
  /-- In single quotes with escapes. -/
  | single
deriving DecidableEq

namespace NameStyle

/-- The ways to show a name, by the words for them. -/
def words : List (List String × NameStyle) :=
  [(["literal"], .literal), (["shell"], .shell false false), (["shell-always"], .shell false true),
    (["shell-escape"], .shell true false), (["shell-escape-always"], .shell true true),
    (["c"], .double true), (["c-maybe"], .double false), (["escape"], .escapes),
    (["locale"], .single), (["clocale"], .double true)]

/-- Whether a character cannot be printed. -/
def isHidden (c : Char) : Bool := c.toNat < 0x20 || 0x7F ≤ c.toNat

/-- The characters of a name with escapes, also for some that can be printed. -/
def escaped (also : List Char) (cs : List Char) : String :=
  String.join (cs.map fun c =>
    if c = '\\' || also.contains c then "\\" ++ c.toString
    else if isHidden c then escapeOf c
    else c.toString)

/-- Whether a shell needs quotes around a name, where what cannot be printed is left as it is. -/
def needsQuotes (also : List Char) (name : String) : Bool :=
  let bare := String.ofList (name.toList.filter fun c => !isHidden c || "\t\n\r".toList.contains c)
  isOddName (if bare.isEmpty && !name.isEmpty then "x" else bare) || name.toList.any also.contains

/-- A name between single quotes, without escapes. -/
def unescaped (name : String) : String :=
  let cs := name.toList
  let mild := match cs with
    | [] => true
    | c :: rest => isMild true rest.isEmpty c && rest.all (isMild false false)
  if cs.contains '\'' && mild then "\"" ++ name ++ "\""
  else "'" ++ name.replace "'" "'\\''" ++ "'"

/-- A name as it is shown, where some more characters need care. -/
def apply (s : NameStyle) (also : List Char) (name : String) : String :=
  let cs := name.toList
  match s with
  | .literal => name
  | .shell true always =>
    if always || isOddName name || cs.any also.contains then quoted name else name
  | .shell false always => if always || needsQuotes also name then unescaped name else name
  | .double always =>
    if always || cs.any fun c => isHidden c || c == '"' || also.contains c then
      "\"" ++ escaped ('"' :: also) cs ++ "\""
    else name
  | .escapes => escaped (' ' :: also) cs
  | .single => "'" ++ escaped ('\'' :: also) cs ++ "'"

end NameStyle

/-! ## Columns -/

/-- A text with the width that it takes. -/
abbrev Cell : Type := String × Nat

/-- The least width of a column. -/
def leastColumn : Nat := 3

/-- The column of a cell, if there are so many columns for so many cells. -/
def columnAt (across : Bool) (columns cells cell : Nat) : Nat :=
  if across then cell % columns else cell / ((cells + columns - 1) / columns)

/-- The widths of the columns if there are so many of them. All but the last have a gap of two
behind them. -/
def columnWidths (across : Bool) (columns : Nat) (widths : List Nat) : List Nat :=
  (List.range columns).map fun column =>
    ((widths.zipIdx.filter fun x => columnAt across columns widths.length x.2 == column).map
      fun x => x.1 + if column + 1 = columns then 0 else 2).foldl max leastColumn

/-- What leads from one place of a line to another: tabs where they fit, and blanks. At most so many
are made. -/
def indentation (tab : Nat) : Nat → Nat → Nat → String
  | 0, _, _ => ""
  | n + 1, start, goal =>
    if goal ≤ start then ""
    else if tab ≠ 0 ∧ (start + 1) / tab < goal / tab then
      "\t" ++ indentation tab n (start + tab - start % tab) goal
    else " " ++ indentation tab n (start + 1) goal

/-- The cells of a row, each of them at its column. -/
def rowText (tab : Nat) : Nat → List (Cell × Nat) → String
  | _, [] => ""
  | _, [(cell, _)] => cell.1
  | place, (cell, width) :: rest =>
    cell.1 ++ indentation tab (width + 1) (place + cell.2) (place + width) ++
      rowText tab (place + width) rest

/-- Cells in as many columns as fit into a line of a width. -/
def inColumns (across : Bool) (width tab : Nat) (finish : Char) (cells : List Cell) : String :=
  let widths := cells.map (·.2)
  let count := cells.length
  let most := min count (max 1 ((width + leastColumn - 1) / leastColumn))
  let fits (columns : Nat) : Bool := (columnWidths across columns widths).foldl (· + ·) 0 < width
  let columns := (((List.range most).map (· + 1)).reverse.find? fun n => n == 1 || fits n).getD 1
  let columnWidths := columnWidths across columns widths
  let rows := if across then (count + columns - 1) / columns else (count + columns - 1) / columns
  String.join ((List.range rows).map fun row =>
    let places := if across then (List.range columns).map (row * columns + ·)
      else (List.range columns).map (· * rows + row)
    rowText tab 0 (((places.filterMap (cells[·]?)).zip columnWidths)) ++ finish.toString)

/-- Cells one after the other, with a sign between them and in lines of a width, if that is wanted. -/
def withSign (sign : Char) (width : Option Nat) (finish : Char) :
    Bool → Nat → List Cell → String
  | _, _, [] => finish.toString
  | first, place, (text, length) :: cells =>
    let fits := match width with
      | none => true
      | some width => place + length + 2 < width
    if first then text ++ withSign sign width finish false length cells
    else if fits then
      sign.toString ++ " " ++ text ++ withSign sign width finish false (place + 2 + length) cells
    else sign.toString ++ finish.toString ++ text ++ withSign sign width finish false length cells

end AslBuild.Tools
