import AslBuild.Tools.Text
set_option autoImplicit false

/-!
# Widths of lines

## Main definitions

* `AslBuild.Tools.fold` — break lines that are too long.
* `AslBuild.Tools.TabStops` — the columns that tabs lead to.
* `AslBuild.Tools.expand`, `AslBuild.Tools.unexpand` — blanks for tabs, and tabs for blanks.
-/

namespace AslBuild.Tools

open FileSystem Host Text

/-! ## Breaking lines -/

/-- The column behind a character that stands at a column. -/
def columnAfter (bytes : Bool) (column : Nat) (c : Char) : Nat :=
  if bytes then column + 1
  else if c = '\x08' then column - 1
  else if c = '\r' then 0
  else if c = '\t' then column + 8 - column % 8
  else column + 1

/-- Whether a character is a blank in a line. -/
def isLineBlank (c : Char) : Bool := c == ' ' || c == '\t'

/-- Lines with no more columns than a width, so far as that is possible. The characters of the line
that is being read are given with the last one first. With `words`, lines end behind blanks. At most
so many steps are made. -/
def foldFrom (width : Nat) (bytes words : Bool) : Nat → List Char → Nat → List Char →
    List (List Char)
  | 0, line, _, cs => [line.reverse ++ cs]
  | _, line, _, [] => [line.reverse]
  | n + 1, line, column, c :: cs =>
    let next := columnAfter bytes column c
    let behind := line.takeWhile fun c => !isLineBlank c
    let front := line.drop behind.length
    if next ≤ width then foldFrom width bytes words n (c :: line) next cs
    else if words && !front.isEmpty then
      front.reverse :: foldFrom width bytes words n behind
        (behind.reverse.foldl (columnAfter bytes) 0) (c :: cs)
    else if line.isEmpty then foldFrom width bytes words n [c] next cs
    else line.reverse :: foldFrom width bytes words n [] 0 (c :: cs)

/-- The options of `fold`; a number may stand for the width. -/
def foldChoices : Choices where
  letters := "bsw:0::1::2::3::4::5::6::7::8::9::"
  words := [("bytes", 'b'), ("spaces", 's'), ("width", 'w')]

/-- Break lines that are too long. -/
def fold : Tool := .ofTask fun args => do
  let g ← given foldChoices args
  let widths ← (g.options.filter fun o => o.1 == 'w' || o.1.isDigit).mapM fun o =>
    amountOf "invalid number of columns" "" 1 (if o.1 == 'w' then o.2 else o.1.toString ++ o.2)
  let width := widths.getLast?.getD 80
  let one (line : String) : String :=
    let ended := line.endsWith "\n"
    let body := if ended then line.toList.dropLast else line.toList
    let pieces := foldFrom width (g.has 'b') (g.has 's') (3 * body.length + 3) [] 0 body
    "\n".intercalate (pieces.map String.ofList) ++ if ended then "\n" else ""
  forTexts plainMessage (fun _ text => say (String.join ((fullLinesOf text).map one)))
    (orInput g.operands)

/-! ## Columns that tabs lead to -/

/-- The columns that tabs lead to. -/
structure TabStops where
  /-- The first of them. -/
  stops : List Nat := []
  /-- Behind those, all columns that are multiples of a number. -/
  multiples : Option Nat := none
  /-- Behind those, columns with the same distance. -/
  distance : Option Nat := none

/-- How the number that is read next is meant. -/
inductive StopKind
  | single
  | multiples
  | distance
deriving DecidableEq

/-- Take a number that was read. -/
def TabStops.add (t : TabStops) : StopKind → Nat → TabStops
  | .single, n => { t with stops := t.stops ++ [n] }
  | .multiples, n => { t with multiples := some n }
  | .distance, n => { t with distance := some n }

/-- The columns that some characters spell, after a number was read in part; or what is wrong. -/
def stopsFrom : TabStops → StopKind → Option Nat → List Char → Except String TabStops
  | t, kind, value, [] => .ok (match value with
      | some n => t.add kind n
      | none => t)
  | t, kind, value, c :: cs =>
    if c = ',' ∨ isLineBlank c then
      match value with
      | some n => stopsFrom (t.add kind n) kind none cs
      | none => stopsFrom t kind none cs
    else if c = '/' ∨ c = '+' then
      if value.isSome then
        .error (quoted c.toString ++ " specifier not at start of number: " ++
          quoted (String.ofList (c :: cs)))
      else stopsFrom t (if c = '/' then .multiples else .distance) none cs
    else if c.isDigit then
      let n := value.getD 0 * 10 + (c.toNat - 48)
      if maxAmount < n then
        .error ("tab stop is too large " ++ quoted (String.ofList (c :: cs)))
      else stopsFrom t kind (some n) cs
    else .error ("tab size contains invalid character(s): " ++ quoted (String.ofList (c :: cs)))

/-- Whether numbers are in their order. -/
def isAscending : List Nat → Bool
  | a :: b :: rest => a < b && isAscending (b :: rest)
  | _ => true

/-- The columns that some texts spell. -/
def TabStops.ofTexts (texts : List String) : Task TabStops := do
  let t ← texts.foldlM (fun t text => do
    match stopsFrom t .single none text.toList with
    | .ok t => pure t
    | .error problem => die 1 problem) ({} : TabStops)
  if t.stops.contains 0 then die 1 "tab size cannot be 0"
  if !isAscending t.stops then die 1 "tab sizes must be ascending"
  if t.multiples.isSome && t.distance.isSome then
    die 1 "'/' specifier is mutually exclusive with '+'"
  pure t

/-- The column that a tab leads to from a column, if there is one. -/
def TabStops.next? (t : TabStops) (column : Nat) : Option Nat :=
  let multipleOf (n : Nat) : Nat := column + (n - column % n)
  match t.stops, t.multiples, t.distance with
  | [], some n, _ => some (multipleOf (max 1 n))
  | [], none, some n => some (multipleOf (max 1 n))
  | [], none, none => some (multipleOf 8)
  | [n], none, none => some (multipleOf n)
  | stops, multiples, distance =>
    match stops.find? (column < ·), multiples, distance with
    | some stop, _, _ => some stop
    | none, some n, _ => some (multipleOf (max 1 n))
    | none, none, some n =>
      some (column + (max 1 n - (column - stops.getLast?.getD 0) % max 1 n))
    | none, none, none => none

/-! ## Blanks for tabs -/

/-- A line, from a column on, with blanks for its tabs; if not `all`, only for those in front. -/
def expanded (t : TabStops) (all : Bool) : Nat → List Char → List Char
  | _, [] => []
  | column, c :: cs =>
    if c = '\t' then
      let next := (t.next? column).getD (column + 1)
      List.replicate (next - column) ' ' ++ expanded t all next cs
    else if !all && c != ' ' then c :: cs
    else c :: expanded t all (if c = '\x08' then column - 1 else column + 1) cs

/-- The texts of files one after the other. -/
def joinedTexts (paths : List String) : Task String := do
  let texts ← paths.mapM fun path => do
    match ← textOf path with
    | .ok text => pure text
    | .error e => do
      warn (plainMessage path e)
      pure ""
  pure (String.join texts)

/-- The options of `expand`; a number may stand for the columns. -/
def expandChoices : Choices where
  letters := "it:0::1::2::3::4::5::6::7::8::9::"
  words := [("tabs", 't'), ("initial", 'i')]

/-- Print files with blanks for their tabs. -/
def expand : Tool := .ofTask fun args => do
  let g ← given expandChoices args
  let t ← TabStops.ofTexts ((g.options.filter fun o => o.1 == 't' || o.1.isDigit).map fun o =>
    if o.1 == 't' then o.2 else o.1.toString ++ o.2)
  let text ← joinedTexts (orInput g.operands)
  say (String.join ((fullLinesOf text).map fun line =>
    String.ofList (expanded t (!g.has 'i') 0 line.toList)))

/-! ## Tabs for blanks -/

/-- What stands in front of a character: the column, the blanks that may become tabs, whether the
first of them reached a column for tabs, whether a blank is in front, and whether blanks are still
replaced. -/
structure Blanks where
  column : Nat := 0
  pending : List Char := []
  atStop : Bool := false
  blank : Bool := true
  active : Bool := true

/-- The blanks that are kept, the first of which may have become a tab. -/
def Blanks.kept (s : Blanks) : List Char :=
  match s.pending with
  | _ :: b :: rest => (if s.atStop then '\t' else ' ') :: b :: rest
  | pending => pending

/-- A line with tabs for its blanks; if not `all`, only for those in front. -/
def unexpanded (t : TabStops) (all : Bool) : Blanks → List Char → List Char
  | s, [] => s.kept
  | s, c :: cs =>
    if !s.active then c :: unexpanded t all s cs
    else if isLineBlank c then
      match t.next? s.column with
      | none =>
        s.kept ++ c :: unexpanded t all { s with pending := [], active := false } cs
      | some next =>
        if c = '\t' || (s.blank && s.column + 1 == next) then
          let front := if s.atStop && !s.pending.isEmpty then ['\t'] else []
          front ++ '\t' ::
            unexpanded t all
              { s with column := next, pending := [], atStop := false, blank := true } cs
        else
          unexpanded t all
            { s with column := s.column + 1, pending := s.pending ++ [c]
                     atStop := s.atStop || s.column + 1 = next, blank := true } cs
    else
      s.kept ++ c ::
        unexpanded t all
          { column := if c = '\x08' then s.column - 1 else s.column + 1
            blank := false, active := all } cs

/-- The options of `unexpand`; numbers may stand for the columns. -/
def unexpandChoices : Choices where
  letters := ",0123456789at:"
  words := [("tabs", 't'), ("all", 'a'), ("first-only", 'f')]

/-- Print files with tabs for their blanks. -/
def unexpand : Tool := .ofTask fun args => do
  let g ← given unexpandChoices args
  let short := String.ofList ((g.options.map (·.1)).filter fun c => c.isDigit || c == ',')
  let t ← TabStops.ofTexts (g.values 't' ++ [short])
  let all := (g.has 'a' || g.has 't') && !g.has 'f'
  let text ← joinedTexts (orInput g.operands)
  say (String.join ((fullLinesOf text).map fun line =>
    String.ofList (unexpanded t all {} line.toList)))

end AslBuild.Tools
