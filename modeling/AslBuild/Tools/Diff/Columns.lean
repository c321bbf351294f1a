import AslBuild.Tools.Diff.Lines
set_option autoImplicit false

/-!
# Texts side by side

Every line of one text stands in a column next to that of the other text that belongs to it, with a
sign between them that tells how they differ.

## Main definitions

* `AslBuild.Tools.Diff.Columns` — how wide columns are.
* `AslBuild.Tools.Diff.Columns.half` — the part of a line that fits into its column.
* `AslBuild.Tools.Diff.sideBySide` — both texts.
-/

namespace AslBuild.Tools.Diff

/-- How wide columns are. -/
structure Columns where
  /-- The width of a column. -/
  half : Nat
  /-- Where the second column starts. -/
  second : Nat
  /-- Whether blanks are used instead of tabs. -/
  expands : Bool
  /-- How far tabs are apart. -/
  tabSize : Nat
  /-- Whether there are colours. -/
  look : Look
  /-- Whether lines that both texts have stand in the first column only. -/
  leftOnly : Bool
  /-- Whether lines that both texts have are left out. -/
  hidesShared : Bool

/-- The columns of lines that are so wide: they are as wide as they can be while there are three
characters between them, and tabs in them are where they are at the start of a line. -/
def Columns.ofWidth (width : Nat) (k : Look) (leftOnly hidesShared : Bool) : Columns :=
  let unit := if k.expands then 1 else k.tabSize
  let gap := unit + 3
  let loose := width / 2 + gap / 2 + (if width % 2 = 1 ∧ gap % 2 = 1 then 1 else 0)
  let second := loose - loose % unit
  let half := if second ≤ 3 ∨ width ≤ second then 0 else min (second - 3) (width - second)
  { half, second := if half = 0 then width else second, expands := k.expands, tabSize := k.tabSize,
    look := k, leftOnly, hidesShared }

/-- The tabs and blanks that lead from one column to another. At most so many tabs are set. -/
def tabsTo (expands : Bool) (size : Nat) : Nat → Nat → Nat → String
  | 0, start, stop => String.ofList (List.replicate (stop - start) ' ')
  | n + 1, start, stop =>
    let next := start + size - start % size
    if !expands && next ≤ stop then "\t" ++ tabsTo expands size n next stop
    else String.ofList (List.replicate (stop - start) ' ')

namespace Columns

/-- The tabs and blanks that lead from one column to another. -/
def lead (k : Columns) (start stop : Nat) : String := tabsTo k.expands k.tabSize stop start stop

/-- The characters of a line that fit into a column that is indented, and the column behind them.
`place` is where the next character belongs, and `column` where the next one that is shown would
stand. -/
def fitting (k : Columns) (indent : Nat) : Nat → Nat → List Char → String × Nat
  | _, column, [] => ("", column)
  | place, column, c :: cs =>
    let put (text : String) (place column : Nat) : String × Nat :=
      let (rest, last) := k.fitting indent place column cs
      (text ++ rest, last)
    match c with
    | '\n' => ("", column)
    | '\t' =>
      let blanks := k.tabSize - place % k.tabSize
      if place = column then
        let stop := column + blanks
        if k.expands then
          let stop := min stop k.half
          put (String.ofList (List.replicate (stop - column) ' ')) (place + blanks) (max column stop)
        else if stop < k.half then put "\t" (place + blanks) stop
        else put "" (place + blanks) column
      else put "" (place + blanks) column
    | '\r' => put ("\r" ++ k.lead 0 indent) 0 0
    | '\x08' =>
      if place = 0 then put "" place column
      else
        let place := place - 1
        if k.half ≤ place then put "" place column
        else if column ≤ place then
          put (String.ofList (List.replicate (place - column) ' ')) place place
        else put "\x08" place place
    | c =>
      if 0x20 ≤ c.toNat ∧ c.toNat < 0x7F then
        if place < k.half then put c.toString (place + 1) (place + 1) else put "" (place + 1) column
      else if place ≤ k.half then put c.toString place place
      else put "" place column

/-- One line of each text, or of one of them, and the sign between them. -/
def row (k : Columns) (left : Option String) (sign : Char) (right : Option String) : String :=
  let ended (line : Option String) : Bool := line.any fun l => l.endsWith "\n"
  let (first, column) := match left with
    | some line => k.fitting 0 0 0 line.toList
    | none => ("", 0)
  let middle := (k.half + k.second - 1) / 2
  let shown := if sign = '|' && ended left != ended right then
    (if ended left then '/' else '\\') else sign
  let (between, column) :=
    if sign = ' ' then ("", column) else (k.lead column middle ++ shown.toString, max column middle + 1)
  let last := match right with
    | some line =>
      if line.startsWith "\n" then ""
      else k.lead column k.second ++ (k.fitting (max column k.second) 0 0 line.toList).1
    | none => ""
  let color := if sign = '<' then some Color.removed else if sign = '>' then some .added else none
  let finish := if ended left || ended right then "\n" else ""
  let text := first ++ between ++ last ++ finish
  match color with
  | some c => k.look.paint c text
  | none => text

/-- Lines that both texts have. -/
def sharedRows (k : Columns) : List String → List String → String
  | a :: as, b :: bs => k.row (some a) ' ' (some b) ++ k.sharedRows as bs
  | [], b :: bs => k.row none ')' (some b) ++ k.sharedRows [] bs
  | as, [] => String.join (as.map fun a => k.row (some a) '(' none)

/-- The lines of a hunk. -/
def hunkRows (k : Columns) : List String → List String → String
  | a :: as, b :: bs => k.row (some a) '|' (some b) ++ k.hunkRows as bs
  | [], bs => String.join (bs.map fun b => k.row none '>' (some b))
  | as, [] => String.join (as.map fun a => k.row (some a) '<' none)

/-- The lines that both texts have, from one of each up to another. -/
def sharedBetween (k : Columns) (as bs : Array String) (start stop startRight stopRight : Nat) :
    String :=
  if k.hidesShared then ""
  else
    let ls := (as.extract start stop).toList
    if k.leftOnly then String.join (ls.map fun a => k.row (some a) '(' none)
    else k.sharedRows ls (bs.extract startRight stopRight).toList

end Columns

/-- Both texts from a line of each on. -/
def sideBySide (k : Columns) (as bs : Array String) : Nat → Nat → List Hunk → String
  | i, j, [] => k.sharedBetween as bs i as.size j bs.size
  | i, j, h :: hs =>
    if k.look.isTrivial [h] then sideBySide k as bs i j hs
    else
      k.sharedBetween as bs i h.before j h.beforeRight ++ k.hunkRows h.left h.right ++
        sideBySide k as bs (h.before + h.left.length) (h.beforeRight + h.right.length) hs

end AslBuild.Tools.Diff
