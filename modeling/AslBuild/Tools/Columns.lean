import AslBuild.Text.Escape
import AslBuild.Tools.Portion
set_option autoImplicit false

/-!
# Parts of lines

## Main definitions

* `AslBuild.Tools.NumberRange` — a range of numbers of fields or characters.
* `AslBuild.Tools.cut` — cut parts out of lines.
* `AslBuild.Tools.paste` — put lines beside each other.
-/

namespace AslBuild.Tools

open FileSystem Host Text

/-! ## Ranges -/

/-- The numbers from one to another, counted from one. -/
structure NumberRange where
  /-- The first number. -/
  first : Nat
  /-- The last number. -/
  last : Nat
deriving DecidableEq

/-- The last number of a range that has no end. -/
def endless : Nat := maxAmount

/-- Ranges in their order, of which none touches the one behind it at a number. -/
def mergedRanges : List NumberRange → List NumberRange
  | a :: b :: rest =>
    if b.first ≤ a.last then mergedRanges ({ a with last := max a.last b.last } :: rest)
    else a :: mergedRanges (b :: rest)
  | ranges => ranges
termination_by ranges => ranges.length

/-- The ranges of the numbers, from one on, that are in none of some ranges. -/
def rangesBetween : Nat → List NumberRange → List NumberRange
  | next, [] => if next ≤ endless then [⟨next, endless⟩] else []
  | next, r :: rest =>
    (if next < r.first then [⟨next, r.first - 1⟩] else []) ++ rangesBetween (r.last + 1) rest

/-- Where the reading of a list of ranges stands. -/
structure RangeReader where
  /-- The number that is being read. -/
  value : Nat := 0
  /-- The start of the range that is being read. -/
  start : Nat := 1
  /-- Whether there is a number in front of the dash. -/
  hasStart : Bool := false
  /-- Whether there is a number behind the dash. -/
  hasEnd : Bool := false
  /-- Whether there is a dash. -/
  dash : Bool := false
  /-- The digits of the number. -/
  digits : List Char := []

/-- The names that numbers of fields, or of characters, go by in messages. -/
structure RangeNames where
  range : String
  zero : String
  large : String
  wrong : String

/-- The names for fields. -/
def fieldNames : RangeNames where
  range := "invalid field range"
  zero := "fields are numbered from 1"
  large := "field number "
  wrong := "invalid field value "

/-- The names for characters. -/
def placeNames : RangeNames where
  range := "invalid byte or character range"
  zero := "byte/character positions are numbered from 1"
  large := "byte/character offset "
  wrong := "invalid byte/character position "

/-- The range that was read up to its end, or what is wrong with it. -/
def RangeReader.range (names : RangeNames) (s : RangeReader) : Except String NumberRange :=
  if s.dash then
    if !s.hasStart && !s.hasEnd then .error "invalid range with no endpoint: -"
    else if !s.hasEnd then .ok ⟨s.start, endless⟩
    else if s.value < s.start then .error "invalid decreasing range"
    else .ok ⟨s.start, s.value⟩
  else if s.value = 0 then .error names.zero
  else .ok ⟨s.value, s.value⟩

/-- The ranges that some characters spell, or what is wrong with them. -/
def rangesFrom (names : RangeNames) : RangeReader → List Char → Except String (List NumberRange)
  | s, [] => (s.range names).map ([·])
  | s, c :: cs =>
    if c = '-' then
      if s.dash then .error names.range
      else if s.hasStart && s.value = 0 then .error names.zero
      else
        rangesFrom names
          { s with dash := true, start := if s.hasStart then s.value else 1, value := 0,
                   digits := [] } cs
    else if c = ',' ∨ c = ' ' ∨ c = '\t' then do
      let r ← s.range names
      (rangesFrom names {} cs).map (r :: ·)
    else if c.isDigit then
      let value := s.value * 10 + (c.toNat - 48)
      let digits := s.digits ++ [c]
      if maxAmount ≤ value then
        .error (names.large ++ quoted (String.ofList (digits ++ cs.takeWhile Char.isDigit)) ++
          " is too large")
      else
        rangesFrom names
          { s with value, digits, hasStart := s.hasStart || !s.dash, hasEnd := s.dash } cs
    else .error (names.wrong ++ quoted (String.ofList (c :: cs)))

/-- The ranges that a text spells, in their order. -/
def rangesOf (names : RangeNames) (text : String) : Task (List NumberRange) := do
  match rangesFrom names {} text.toList with
  | .ok ranges => pure (mergedRanges (ranges.mergeSort fun a b => a.first ≤ b.first))
  | .error problem => misuse 1 problem

/-- The items of a list that are in some ranges, range by range; the first one has a number. -/
def itemsIn {α : Type} (items : List α) (ranges : List NumberRange) : List (List α) :=
  (ranges.map fun r => (items.drop (r.first - 1)).take (r.last + 1 - r.first)).filter fun part =>
    !part.isEmpty

/-! ## Cutting -/

/-- The options of `cut`. -/
def cutChoices : Choices where
  letters := "b:c:d:f:nsz"
  words := [("bytes", 'b'), ("characters", 'c'), ("fields", 'f'), ("delimiter", 'd'),
    ("only-delimited", 's'), ("output-delimiter:", 'O'), ("complement", 'C'),
    ("zero-terminated", 'z')]

/-- The fields of a line, if it has more than one. -/
def fieldsOf (delimiter : Char) (line : String) : Option (List String) :=
  if line.toList.contains delimiter then some (line.splitOn delimiter.toString) else none

/-- Cut parts out of lines. -/
def cut : Tool := .ofTask fun args => do
  let g ← given cutChoices args
  let lists := g.options.filter fun o => "bcf".toList.contains o.1
  if 1 < lists.length then misuse 1 "only one list may be specified"
  if (g.values 'd').any fun d => 1 < d.length then
    misuse 1 "the delimiter must be a single character"
  match lists with
  | [] => misuse 1 "you must specify a list of bytes, characters, or fields"
  | (kind, list) :: _ => do
    let isField := kind == 'f'
    if g.has 'd' && !isField then
      misuse 1 "an input delimiter may be specified only when operating on fields"
    if g.has 's' && !isField then
      misuse 1 "suppressing non-delimited lines makes sense\n\tonly when operating on fields"
    let stated ← rangesOf (if isField then fieldNames else placeNames) list
    let ranges := if g.has 'C' then rangesBetween 1 stated else stated
    let delimiter := match g.value? 'd' with
      | none => '\t'
      | some text => text.toList.headD (Char.ofNat 0)
    let glue := g.value? 'O'
    let mark := if g.has 'z' then Char.ofNat 0 else '\n'
    let cutLine (line : String) : List String :=
      if isField then
        match fieldsOf delimiter line with
        | none => if g.has 's' then [] else [line]
        | some fields =>
          [(glue.getD delimiter.toString).intercalate (itemsIn fields ranges).flatten]
      else [(glue.getD "").intercalate ((itemsIn line.toList ranges).map String.ofList)]
    let lines (text : String) : List String :=
      let pieces := text.splitOn mark.toString
      if pieces.getLast? = some "" then pieces.dropLast else pieces
    forTexts plainMessage (fun _ text =>
      say (String.join (((lines text).flatMap cutLine).map (· ++ mark.toString))))
      (orInput g.operands)

/-! ## Pasting -/

/-- The separators that some characters spell, or nothing if a backslash stands at the end. -/
def separatorsOf : List Char → Option (List String)
  | [] => some []
  | '\\' :: [] => none
  | '\\' :: c :: cs =>
    let one := if c = '0' then "" else match Escape.letter? c with
      | some d => if c = 'a' then "a" else d.toString
      | none => c.toString
    (separatorsOf cs).map (one :: ·)
  | c :: cs => (separatorsOf cs).map (c.toString :: ·)

/-- Texts with separators between them, which are used in turn. -/
def joinedBy (separators : List String) : Nat → List String → String
  | _, [] => ""
  | _, [s] => s
  | n, s :: rest =>
    s ++ (separators[n % max 1 separators.length]?.getD "") ++ joinedBy separators (n + 1) rest

/-- Rows of columns, up to the longest column. -/
def rowsOf (columns : List (List String)) : List (List String) :=
  let height := (columns.map List.length).foldl max 0
  (List.range height).map fun i => columns.map fun column => column[i]?.getD ""

/-- The options of `paste`. -/
def pasteChoices : Choices where
  letters := "d:sz"
  words := [("serial", 's'), ("delimiters", 'd'), ("zero-terminated", 'z')]

/-- Put the lines of files beside each other. -/
def paste : Tool := .ofTask fun args => do
  let g ← given pasteChoices args
  let given := (g.value? 'd').getD "\t"
  let separators ← match separatorsOf given.toList with
    | some separators => pure separators
    | none => die 1 ("delimiter list ends with an unescaped backslash: " ++ given)
  let mark := if g.has 'z' then "\x00" else "\n"
  let linesIn (text : String) : List String :=
    let pieces := text.splitOn mark
    if pieces.getLast? = some "" then pieces.dropLast else pieces
  let paths := orInput g.operands
  let input ← if !paths.contains "-" then pure []
    else match ← textOf "-" with
      | .ok text => pure (linesIn text)
      | .error _ => pure []
  let dashes := (paths.filter (· == "-")).length
  let share (k : Nat) : List String :=
    ((List.range input.length).zip input).filterMap fun x =>
      if x.1 % max 1 dashes == k then some x.2 else none
  let read (k : Nat) (path : String) : Task (Nat × List (List String)) := do
    if path = "-" then
      pure (k + 1, [if g.has 's' then (if k = 0 then input else []) else share k])
    else match ← textOf path with
      | .ok text => pure (k, [linesIn text])
      | .error e =>
        if g.has 's' then
          warn (plainMessage path e)
          pure (k, [])
        else die 1 (plainMessage path e)
  let (_, columns) ← paths.foldlM (fun (k, columns) path => do
    let (k, more) ← read k path
    pure (k, columns ++ more)) (0, [])
  let rows := if g.has 's' then columns else rowsOf columns
  say (String.join (rows.map fun row => joinedBy separators 0 row ++ mark))

end AslBuild.Tools
