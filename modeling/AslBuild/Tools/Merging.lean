import AslBuild.Tools.Sort.Order
import AslBuild.Tools.Text
set_option autoImplicit false

/-!
# Two sorted files together

## Main definitions

* `AslBuild.Tools.comm` — the lines that two files have in common, and the others.
* `AslBuild.Tools.Record` — a line that fields are taken from.
* `AslBuild.Tools.join` — put lines together that have a field in common.
-/

namespace AslBuild.Tools

open FileSystem Host Text

/-! ## The order of the input -/

/-- Whether the order of the input is checked. -/
inductive OrderCheck
  /-- Once there is a line that the other file does not have. -/
  | ifNeeded
  /-- In any case, and disorder is the end. -/
  | always
  | never
deriving DecidableEq

/-- How options ask for the order to be checked. -/
def orderCheckOf (g : Given) (always never : Char) : OrderCheck :=
  match g.last? [always, never] with
  | none => .ifNeeded
  | some c => if c = always then .always else .never

/-- The lines of a file, which end with a character. -/
def linesEnding (mark path : String) : Task (List String) := do
  match ← textOf path with
  | .ok text =>
    let pieces := text.splitOn mark
    pure (if pieces.getLast? = some "" then pieces.dropLast else pieces)
  | .error e => die 1 (plainMessage path e)

/-- The two files that are meant. -/
def twoFiles (g : Given) : Task (String × String) := do
  match g.operands with
  | [] => misuse 1 "missing operand"
  | [a] => misuse 1 ("missing operand after " ++ quoted a)
  | [a, b] => pure (a, b)
  | _ :: _ :: extra :: _ => misuse 1 ("extra operand " ++ quoted extra)

/-! ## Lines in common -/

/-- A file that is compared with another one: the lines that are left, those in front of them, the
last one first, and whether it was said that they are out of order. -/
structure Sorted where
  left : List String
  done : List String := []
  told : Bool := false

/-- The files that are compared, what is printed, the last of it first, how many lines there are of
each kind, and whether a line was found that only one of the files has. -/
structure Comparison where
  first : Sorted
  second : Sorted
  out : List String := []
  counts : Nat × Nat × Nat := (0, 0, 0)
  apart : Bool := false
  /-- The messages, the last one first. -/
  messages : List String := []
  /-- Whether disorder has put an end to it. -/
  stopped : Bool := false

/-- How two sorted files are compared. -/
structure Comm where
  /-- Which of the three columns are shown. -/
  shows : Nat → Bool
  /-- What stands between columns. -/
  separator : String
  /-- What stands behind lines. -/
  mark : String
  /-- Whether the order is checked. -/
  check : OrderCheck

/-- Whether two lines are out of order. -/
def outOfOrder (a b : String) : Bool := compareChars a.toList b.toList == .gt

/-- A line in its column, if that is shown. -/
def Comm.line (k : Comm) (column : Nat) (text : String) : List String :=
  if k.shows column then
    let tabs := ((List.range column).filter fun i => 0 < i && k.shows i).map fun _ => k.separator
    [String.join tabs ++ text ++ k.mark]
  else []

/-- Go on to the next line of a file. What is said if that one is out of order is given too. At the
end the line that was read last is looked at once more. -/
def Comm.advance (k : Comm) (number : Nat) (apart : Bool) (s : Sorted) : Sorted × List String :=
  match s.left with
  | [] => (s, [])
  | line :: rest =>
    let moved := { s with left := rest, done := line :: s.done }
    let checked := match k.check with
      | .always => true
      | .never => false
      | .ifNeeded => apart
    let wrong := match rest, s.done with
      | next :: _, _ => outOfOrder line next
      | [], before :: _ => outOfOrder before line
      | [], [] => false
    if checked && wrong && !s.told then
      ({ moved with told := true },
        ["file " ++ toString number ++ " is not in sorted order"])
    else (moved, [])

/-- One step of a comparison. -/
def Comm.step (k : Comm) (c : Comparison) : Comparison :=
  let order := match c.first.left, c.second.left with
    | [], _ => Ordering.gt
    | _, [] => Ordering.lt
    | a :: _, b :: _ => compareChars a.toList b.toList
  let line := if order = .gt then c.second.left.headD "" else c.first.left.headD ""
  let (a, b, both) := c.counts
  let (column, counts) := match order with
    | .lt => (1, (a + 1, b, both))
    | .gt => (2, (a, b + 1, both))
    | .eq => (3, (a, b, both + 1))
  let apart := c.apart || order != .eq
  let (first, told) := if order = .gt then (c.first, []) else k.advance 1 apart c.first
  let stopped := k.check == .always && !told.isEmpty
  let (second, more) := if order = .lt || stopped then (c.second, []) else k.advance 2 apart c.second
  { first, second, counts, apart
    out := k.line column line ++ c.out
    messages := more ++ told ++ c.messages
    stopped := stopped || (k.check == .always && !more.isEmpty) }

/-- A comparison up to its end, of at most so many steps. -/
def Comm.run (k : Comm) : Nat → Comparison → Comparison
  | 0, c => c
  | n + 1, c =>
    if c.stopped || (c.first.left.isEmpty && c.second.left.isEmpty) then c else k.run n (k.step c)

/-- The options of `comm`. -/
def commChoices : Choices where
  letters := "123z"
  words := [("check-order", '+'), ("nocheck-order", '-'), ("output-delimiter:", 'd'),
    ("total", 't'), ("zero-terminated", 'z')]

/-- Compare two sorted files line by line. -/
def comm : Tool := .ofTask fun args => do
  let g ← given commChoices args
  if 1 < (g.values 'd').eraseDups.length then die 1 "multiple output delimiters specified"
  let (a, b) ← twoFiles g
  let mark := if g.has 'z' then "\x00" else "\n"
  let separator := match g.value? 'd' with
    | none => "\t"
    | some text => if text.isEmpty then "\x00" else text
  let k : Comm :=
    { shows := fun n => !g.has (Char.ofNat (48 + n)), separator, mark
      check := orderCheckOf g '+' '-' }
  let left ← linesEnding mark a
  let right ← linesEnding mark b
  let c := k.run (left.length + right.length) { first := { left }, second := { left := right } }
  say (String.join c.out.reverse)
  c.messages.reverse.forM remark
  if c.stopped then quit 1
  if g.has 't' then
    let (a, b, both) := c.counts
    say (separator.intercalate ([a, b, both].map toString ++ ["total"]) ++ mark)
  if !c.messages.isEmpty then die 1 "input is not in sorted order"

/-! ## Records -/

/-- A line that fields are taken from. -/
structure Record where
  /-- The number of the line. -/
  number : Nat
  /-- The line. -/
  text : String
  /-- Its fields. -/
  fields : List (List Char)

/-- The fields of a line that blanks separate. At most so many are read. -/
def blankFields : Nat → List Char → List (List Char)
  | 0, _ => []
  | n + 1, cs =>
    let field := cs.takeWhile fun c => !isBlankChar c
    match cs.drop field.length with
    | [] => [field]
    | rest =>
      match rest.dropWhile isBlankChar with
      | [] => [field, []]
      | rest => field :: blankFields n rest

/-- The fields of a line, which blanks or one character separate. -/
def joinFields (tab : Option Char) (line : String) : List (List Char) :=
  match tab with
  | some t => if t = '\n' then [line.toList] else (line.splitOn t.toString).map String.toList
  | none =>
    match line.toList.dropWhile isBlankChar with
    | [] => []
    | cs => blankFields (cs.length + 1) cs

/-- A field that is shown: that of a number of one of the two files, or the one in common. -/
inductive Column
  | shared
  | field (second : Bool) (number : Nat)
deriving DecidableEq

/-- How lines are put together. -/
structure Join where
  /-- The character between fields, if it is not blanks that separate them. -/
  tab : Option Char := none
  /-- The numbers of the fields in common, of each file, from zero on. -/
  keys : Nat × Nat := (0, 0)
  /-- Whether large and small letters are alike. -/
  folds : Bool := false
  /-- Whether lines that only one of the files has are shown, for each file. -/
  alone : Bool × Bool := (false, false)
  /-- Whether lines are shown that are put together. -/
  together : Bool := true
  /-- What stands for a field that is missing. -/
  missing : String := ""
  /-- The fields that are shown, if they were chosen. -/
  columns : List Column := []
  /-- How many fields of each file are shown, if that is fixed. -/
  widths : Option (Nat × Nat) := none
  /-- Whether the order is checked. -/
  check : OrderCheck := .ifNeeded
  /-- What stands behind lines. -/
  mark : String := "\n"

/-- A field of a record. -/
def Join.field (k : Join) (r : Option Record) (n : Nat) : String :=
  match r.bind fun r => r.fields[n]? with
  | some (c :: cs) => String.ofList (c :: cs)
  | _ => k.missing

/-- The order of the fields in common of two records. -/
def Join.compare (k : Join) (a b : Record) (i j : Nat) : Ordering :=
  let part (r : Record) (n : Nat) : List Char :=
    let cs := (r.fields[n]?).getD []
    if k.folds then cs.map Char.toUpper else cs
  compareChars (part a i) (part b j)

/-- What is shown of two records, of which one may be missing. -/
def Join.shown (k : Join) (a b : Option Record) : String :=
  let shared := match a with
    | some _ => k.field a k.keys.1
    | none => k.field b k.keys.2
  let others (r : Option Record) (key : Nat) (width : Option Nat) : List String :=
    let count := width.getD ((r.map fun r => r.fields.length).getD 0)
    ((List.range count).filter (· != key)).map (k.field r)
  let columns :=
    if k.columns.isEmpty then
      shared :: others a k.keys.1 (k.widths.map (·.1)) ++ others b k.keys.2 (k.widths.map (·.2))
    else k.columns.map fun
      | .shared => shared
      | .field second n => if second then k.field b n else k.field a n
  (match k.tab with
    | some t => t.toString
    | none => " ").intercalate columns ++ k.mark

/-! ## Putting lines together -/

/-- A file whose lines are put together with others: its name, the record that was read last, those
that are left, and whether it was said that they are out of order. -/
structure JoinSide where
  name : String
  key : Nat
  last : Option Record := none
  left : List Record
  told : Bool := false

/-- What was printed, the last of it first, and what is said. -/
structure Joining where
  first : JoinSide
  second : JoinSide
  out : List String := []
  apart : Bool := false
  messages : List String := []
  stopped : Bool := false

/-- Read the next record of a file. -/
def Join.read (k : Join) (apart : Bool) (s : JoinSide) :
    Option Record × JoinSide × List String :=
  match s.left with
  | [] => (none, s, [])
  | r :: left =>
    let checked := match k.check with
      | .always => true
      | .never => false
      | .ifNeeded => apart
    let wrong := s.last.any fun before => k.compare before r s.key s.key == .gt
    let told := checked && wrong && !s.told
    (some r, { s with last := some r, left, told := s.told || told },
      if told then [s.name ++ ":" ++ toString r.number ++ ": is not sorted: " ++ r.text] else [])

/-- Read the next record of one of the files. -/
def Join.next (k : Join) (second : Bool) (j : Joining) : Option Record × Joining :=
  let (r, side, told) := k.read j.apart (if second then j.second else j.first)
  let j := { j with
    messages := told ++ j.messages
    stopped := j.stopped || (k.check == OrderCheck.always && !told.isEmpty) }
  (r, if second then { j with second := side } else { j with first := side })

/-- Read records as long as their fields in common are those of a record of the other file. The
records, and the one behind them, are given. At most so many are read. -/
def Join.readGroup (k : Join) (second : Bool) (same : Record → Bool) :
    Nat → Joining → List Record × Option Record × Joining
  | 0, j => ([], none, j)
  | n + 1, j =>
    match k.next second j with
    | (none, j) => ([], none, j)
    | (some r, j) =>
      if same r then
        let (rs, after, j) := k.readGroup second same n j
        (r :: rs, after, j)
      else ([], some r, j)

/-- Print something. -/
def Joining.print (j : Joining) (text : String) : Joining := { j with out := text :: j.out }

/-- Put lines together as long as there are some of both files, from two records on. What is left of
each file is given. At most so many steps are made. -/
def Join.walk (k : Join) : Nat → Option Record → Option Record → Joining →
    Option Record × Option Record × Joining
  | 0, a, b, j => (a, b, j)
  | n + 1, some a, some b, j =>
    if j.stopped then (none, none, j)
    else match k.compare a b k.keys.1 k.keys.2 with
      | .lt =>
        let j := if k.alone.1 then j.print (k.shown (some a) none) else j
        let (next, j) := k.next false j
        k.walk n next (some b) { j with apart := true }
      | .gt =>
        let j := if k.alone.2 then j.print (k.shown none (some b)) else j
        let (next, j) := k.next true j
        k.walk n (some a) next { j with apart := true }
      | .eq =>
        let (as, nextA, j) := k.readGroup false
          (fun r => k.compare r b k.keys.1 k.keys.2 == .eq) n j
        let (bs, nextB, j) := k.readGroup true
          (fun r => k.compare a r k.keys.1 k.keys.2 == .eq) n j
        let rows := (a :: as).flatMap fun x => (b :: bs).map fun y => k.shown (some x) (some y)
        let j := if k.together && !j.stopped then { j with out := rows.reverse ++ j.out } else j
        k.walk n nextA nextB j
  | _, a, b, j => (a, b, j)

/-- Read the rest of a file from a record on, of at most so many. -/
def Join.finish (k : Join) (second : Bool) : Nat → Option Record → Joining → Joining
  | _, none, j => j
  | 0, _, j => j
  | n + 1, some r, j =>
    let shows := if second then k.alone.2 else k.alone.1
    let j := if shows then
        j.print (if second then k.shown none (some r) else k.shown (some r) none)
      else j
    let told := if second then j.second.told else j.first.told
    if j.stopped || (told && !shows) then j
    else
      let (next, j) := k.next second j
      k.finish second n next j

/-- The records of a file. -/
def recordsOf (tab : Option Char) (lines : List String) : List Record :=
  ((List.range lines.length).zip lines).map fun (i, text) =>
    { number := i + 1, text, fields := joinFields tab text }

/-! ## The tool -/

/-- The number of a field that a text spells, from zero on. -/
def joinField (text : String) : Task Nat := do
  match amount? "" text with
  | .ok 0 | .error .invalid | .error .suffix => die 1 ("invalid field number: " ++ quoted text)
  | .ok n => pure (n - 1)
  | .error .tooLarge => pure maxAmount

/-- The column that a text spells. -/
def columnOf (text : String) : Task Column := do
  match text.toList with
  | ['0'] => pure .shared
  | '1' :: '.' :: cs => do pure (.field false (← joinField (String.ofList cs)))
  | '2' :: '.' :: cs => do pure (.field true (← joinField (String.ofList cs)))
  | c :: _ =>
    if c = '0' ∨ c = '1' ∨ c = '2' then die 1 ("invalid field specifier: " ++ quoted text)
    else die 1 ("invalid file number in field spec: " ++ quoted text)
  | [] => die 1 ("invalid file number in field spec: " ++ quoted text)

/-- The columns that a text lists. -/
def columnsOf (text : String) : Task (List Column) := do
  let words := (Text.pieces (fun c => c == ',' || c == ' ' || c == '\t') text.toList).map
    String.ofList
  words.mapM columnOf

/-- The options of `join`. -/
def joinChoices : Choices where
  letters := "a:e:i1:2:j:o:t:v:z"
  words := [("ignore-case", 'i'), ("check-order", '+'), ("nocheck-order", '-'),
    ("zero-terminated", 'z'), ("header", 'h')]

/-- Change a number of a field, which may have been given before. -/
def joinKey (old : Option Nat) (text : String) : Task (Option Nat) := do
  let n ← joinField text
  match old with
  | some m =>
    if m = n then pure (some n)
    else die 1 ("incompatible join fields " ++ toString (m + 1) ++ ", " ++ toString (n + 1))
  | none => pure (some n)

/-- How options ask for lines to be put together. -/
def joinOptions (g : Given) : Task (Join × Bool) := do
  let fileNumber (text : String) : Task Bool := do
    match amount? "" text with
    | .ok 1 => pure false
    | .ok 2 => pure true
    | _ => die 1 ("invalid field number: " ++ quoted text)
  let (k, first, second, automatic) ← g.options.foldlM (fun (k, first, second, automatic) (c, v) => do
    match c with
    | 'v' | 'a' => do
      let two ← fileNumber v
      let k : Join := if c = 'v' then { k with together := false } else k
      pure ({ k with alone := if two then (k.alone.1, true) else (true, k.alone.2) },
        first, second, automatic)
    | 'e' => pure ({ k with missing := v }, first, second, automatic)
    | 'i' => pure ({ k with folds := true }, first, second, automatic)
    | '1' => do pure (k, ← joinKey first v, second, automatic)
    | '2' => do pure (k, first, ← joinKey second v, automatic)
    | 'j' => do pure (k, ← joinKey first v, ← joinKey second v, automatic)
    | 'o' =>
      if v = "auto" then pure (k, first, second, true)
      else do
        let columns ← columnsOf v
        pure ({ k with columns := k.columns ++ columns }, first, second, automatic)
    | 't' => do
      let tab ← match v.toList with
        | [] => pure '\n'
        | [c] => pure c
        | ['\\', '0'] => pure (Char.ofNat 0)
        | _ => die 1 ("multi-character tab " ++ quoted v)
      if k.tab.any (· != tab) then die 1 "incompatible tabs"
      pure ({ k with tab := some tab }, first, second, automatic)
    | _ => pure (k, first, second, automatic))
    (({} : Join), (none : Option Nat), (none : Option Nat), false)
  pure ({ k with
    keys := (first.getD 0, second.getD 0)
    check := orderCheckOf g '+' '-'
    mark := if g.has 'z' then "\x00" else "\n" }, automatic)

/-- Put lines of two files together that have a field in common. -/
def join : Tool := .ofTask fun args => do
  let g ← given joinChoices args
  let (k, automatic) ← joinOptions g
  let (a, b) ← twoFiles g
  if a = "-" && b = "-" then die 1 "both files cannot be standard input"
  let left := recordsOf k.tab (← linesEnding k.mark a)
  let right := recordsOf k.tab (← linesEnding k.mark b)
  let width (rs : List Record) : Nat := (rs.head?.map fun r => r.fields.length).getD 0
  let k := if automatic then { k with widths := some (width left, width right) } else k
  let steps := left.length + right.length + 1
  let j : Joining :=
    { first := { name := a, key := k.keys.1, left }
      second := { name := b, key := k.keys.2, left := right } }
  let (x, j) := k.next false j
  let (y, j) := k.next true j
  let (x, y, j) :=
    if g.has 'h' && (x.isSome || y.isSome) then
      let j := j.print (k.shown x y)
      let j := { j with first := { j.first with last := none }
                        second := { j.second with last := none } }
      let (x, j) := k.next false j
      let (y, j) := k.next true j
      (x, y, j)
    else (x, y, j)
  let (x, y, j) := k.walk steps x y j
  let checksRest := k.check != .never && !(j.first.told && j.second.told)
  let j :=
    if x.isSome && (k.alone.1 || checksRest) then
      k.finish false steps x { j with apart := j.apart || y.isSome }
    else j
  let j :=
    if y.isSome && (k.alone.2 || checksRest) && !j.stopped then
      k.finish true steps y { j with apart := j.apart || x.isSome }
    else j
  say (String.join j.out.reverse)
  j.messages.reverse.forM remark
  if j.stopped then quit 1
  if !j.messages.isEmpty then die 1 "input is not in sorted order"

end AslBuild.Tools
