import AslBuild.Tools.Counting
import AslBuild.Tools.Sort.Order
set_option autoImplicit false

/-!
# Sorting files

## Main definitions

* `AslBuild.Tools.keyOf` — the key that a text spells.
* `AslBuild.Tools.sortPlan` — the plan that options ask for.
* `AslBuild.Tools.sort` — sort the lines of files.
-/

namespace AslBuild.Tools

open FileSystem Host Text

/-! ## Keys in arguments -/

/-- The style with a letter added. -/
def SortStyle.with (s : SortStyle) (c : Char) : SortStyle :=
  match c with
  | 'n' => { s with numeric := true }
  | 'g' => { s with general := true }
  | 'h' => { s with sizes := true }
  | 'M' => { s with months := true }
  | 'V' => { s with versions := true }
  | 'R' => { s with shuffled := true }
  | 'f' => { s with folds := true }
  | 'd' => { s with ignored := some .signs }
  | 'i' => { s with ignored := s.ignored.or (some .hidden) }
  | 'r' => { s with reversed := true }
  | _ => s

/-- The letters that say how a key is compared. -/
def keyLetters : List Char := ['b', 'd', 'f', 'g', 'h', 'i', 'M', 'n', 'R', 'r', 'V']

/-- Whether a style says nothing of how keys are compared, besides the direction. -/
def SortStyle.isPlain (s : SortStyle) : Bool := { s with reversed := false } == ({} : SortStyle)

/-- The letters of a style that rule others out, if there are too many of them. -/
def SortStyle.conflict? (s : SortStyle) : Option String :=
  let kinds := [s.numeric, s.general, s.sizes, s.months,
    s.versions || s.shuffled || s.ignored.isSome]
  if (kinds.filter id).length ≤ 1 then none
  else
    let letters := [('d', s.ignored == some .signs), ('f', s.folds), ('g', s.general),
      ('h', s.sizes), ('i', s.ignored == some .hidden), ('M', s.months), ('n', s.numeric),
      ('R', s.shuffled), ('V', s.versions)]
    some (String.ofList ((letters.filter (·.2)).map (·.1)))

/-- The number that a text starts with, and what follows it. `what` names the number. -/
def keyNumber (what : String) (cs : List Char) : Except String (Nat × List Char) :=
  let ds := cs.takeWhile Char.isDigit
  match digits? (String.ofList ds) with
  | some n => .ok (n, cs.drop ds.length)
  | none => .error ("invalid number " ++ what ++ ": invalid count at start of " ++
      quoted (String.ofList cs))

/-- The letters at the start of a text that say how a key is compared, and what follows them. -/
def keyLettersOf (cs : List Char) : List Char × List Char := cs.span keyLetters.contains

/-- The key that a text spells, or what is wrong with it. -/
def keyOf (text : String) : Except String SortKey := do
  let bad {α : Type} (what : String) : Except String α :=
    .error (what ++ ": invalid field specification " ++ quoted text)
  let (field, rest) ← keyNumber "at field start" text.toList
  if field = 0 then bad "field number is zero"
  let (char, rest) ← match rest with
    | '.' :: rest => keyNumber "after '.'" rest
    | rest => .ok (1, rest)
  if char = 0 then bad "character offset is zero"
  let (letters, rest) := keyLettersOf rest
  let (stop, rest) ← match rest with
    | ',' :: rest => do
      let (n, rest) ← keyNumber "after ','" rest
      if n = 0 then bad "field number is zero"
      let (m, rest) ← match rest with
        | '.' :: rest => keyNumber "after '.'" rest
        | rest => .ok (0, rest)
      .ok (some (⟨n - 1, m⟩ : Spot), rest)
    | rest => .ok (none, rest)
  let (more, rest) := if stop.isSome then keyLettersOf rest else ([], rest)
  if !rest.isEmpty then bad "stray character in field spec"
  let style := (letters ++ more).foldl SortStyle.with {}
  .ok
    { start := ⟨field - 1, char - 1⟩, stop
      style := { style with skipsStart := letters.contains 'b', skipsEnd := more.contains 'b' } }

/-- The key that an argument in an older notation spells, where fields are counted from zero and
another argument may say where the key ends. -/
def olderKey? (start : String) (stop : Option String) : Option String := do
  let place (cs : List Char) : Option (Nat × Nat × List Char) := do
    let ds := cs.takeWhile Char.isDigit
    let field ← digits? (String.ofList ds)
    match cs.drop ds.length with
    | '.' :: rest =>
      let es := rest.takeWhile Char.isDigit
      let char ← digits? (String.ofList es)
      some (field, char, rest.drop es.length)
    | rest => some (field, 0, rest)
  let (field, char, letters) ← place (start.toList.drop 1)
  if !letters.all keyLetters.contains then none
  else
    let first := toString (field + 1) ++ "." ++ toString (char + 1) ++ String.ofList letters
    match stop with
    | none => some first
    | some stop => do
      let (field, char, letters) ← place (stop.toList.drop 1)
      let last := if char = 0 then toString (max 1 field)
        else toString (field + 1) ++ "." ++ toString char
      some (first ++ "," ++ last ++ String.ofList letters)

/-- Arguments with keys in the older notation written in the usual one. -/
def withoutOlderKeys : List String → List String
  | [] => []
  | "--" :: args => "--" :: args
  | [a] => match if a.startsWith "+" then olderKey? a none else none with
    | some key => ["-k", key]
    | none => [a]
  | a :: b :: args =>
    let isStop := match b.toList with
      | '-' :: c :: _ => c.isDigit
      | _ => false
    if !a.startsWith "+" then a :: withoutOlderKeys (b :: args)
    else if isStop then
      match olderKey? a (some b) with
      | some key => "-k" :: key :: withoutOlderKeys args
      | none => a :: withoutOlderKeys (b :: args)
    else match olderKey? a none with
      | some key => "-k" :: key :: withoutOlderKeys (b :: args)
      | none => a :: withoutOlderKeys (b :: args)

/-! ## Options -/

/-- The options of `sort`. -/
def sortChoices : Choices where
  letters := "bcCdfghik:mMno:rRsS:t:T:uVy::z"
  words := [("ignore-leading-blanks", 'b'), ("check::", '+'), ("compress-program:", '&'),
    ("debug", '='), ("dictionary-order", 'd'), ("ignore-case", 'f'), ("files0-from:", '0'),
    ("general-numeric-sort", 'g'), ("ignore-nonprinting", 'i'), ("key", 'k'), ("merge", 'm'),
    ("month-sort", 'M'), ("numeric-sort", 'n'), ("human-numeric-sort", 'h'),
    ("version-sort", 'V'), ("random-sort", 'R'), ("random-source:", '%'), ("sort:", '*'),
    ("output", 'o'), ("reverse", 'r'), ("stable", 's'), ("batch-size:", '#'),
    ("buffer-size", 'S'), ("field-separator", 't'), ("temporary-directory", 'T'), ("unique", 'u'),
    ("zero-terminated", 'z'), ("parallel:", '|')]
  trouble := 2

/-- The words for the ways to compare. -/
def sortWords : List (List String × Char) :=
  [(["general-numeric"], 'g'), (["human-numeric"], 'h'), (["month"], 'M'), (["numeric"], 'n'),
    (["random"], 'R'), (["version"], 'V')]

/-- The words for the ways to check the order. -/
def checkWords : List (List String × Char) :=
  [(["quiet", "silent"], 'C'), (["diagnose-first"], 'c')]

/-- Options with those that have words as arguments replaced by letters. -/
def plainOptions (options : List (Char × String)) : Task (List (Char × String)) :=
  options.mapM fun (c, value) => do
    if c = '*' then pure (← wordOf 1 "--sort" sortWords value, "")
    else if c = '+' then
      if value.isEmpty then pure ('c', "") else pure (← wordOf 1 "--check" checkWords value, "")
    else pure (c, value)

/-- Complain about options that rule each other out. -/
def refuseTogether {α : Type} (letters : String) : Task α :=
  die 2 ("options '-" ++ letters ++ "' are incompatible")

/-- The plan that options ask for. -/
def sortPlan (g : Given) : Task SortPlan := do
  let keys ← (g.values 'k').mapM fun text => do
    match keyOf text with
    | .ok key => pure key
    | .error message => die 2 message
  let tab ← match g.value? 't' with
    | none => pure none
    | some text =>
      match text.toList with
      | [c] => pure (some c)
      | ['\\', '0'] => pure (some (Char.ofNat 0))
      | [] => die 2 "empty tab"
      | _ => die 2 ("multi-character tab " ++ quoted text)
  let style := (g.options.map (·.1)).foldl SortStyle.with {}
  let style := { style with skipsStart := g.has 'b', skipsEnd := g.has 'b' }
  let whole : List SortKey :=
    if keys.isEmpty && !style.isPlain then [{ start := ⟨0, 0⟩, style }] else []
  let keys := keys.map fun k =>
    if k.style == ({} : SortStyle) then { k with style := style } else k
  ((keys ++ whole).map SortKey.style ++ [style]).forM fun s =>
    match s.conflict? with
    | some letters => refuseTogether letters
    | none => pure ()
  pure
    { keys := keys ++ whole, tab
      reversed := style.reversed
      unique := g.has 'u'
      stable := g.has 's' }

/-! ## Files -/

/-- What is said of a file that cannot be read. -/
def sortMessage (path : String) (e : IoError) : String :=
  if e = .os .isDirectory then "read failed: " ++ quotedIfOdd path ++ ": " ++ reasonOf e
  else "cannot read: " ++ quotedIfOdd path ++ ": " ++ reasonOf e

/-- The lines of every file, which end with a character. -/
def linesOfAll (mark : Char) (paths : List String) : Task (List (List (List Char))) :=
  paths.mapM fun path => do
    match ← textOf path with
    | .ok text =>
      let pieces := text.splitOn mark.toString
      let lines := if pieces.getLast? = some "" then pieces.dropLast else pieces
      pure (lines.map String.toList)
    | .error e => die 2 (sortMessage path e)

/-- The files that are sorted. -/
def sortPaths (g : Given) : Task (List String) := do
  match g.value? '0', g.operands with
  | some _, extra :: _ => do
    remark ("extra operand " ++ quoted extra)
    tell "file operands cannot be combined with --files0-from\n"
    advise 2
  | some source, [] => do
    match ← textOf source with
    | .error e => die 2 ("open failed: " ++ quotedIfOdd source ++ ": " ++ reasonOf e)
    | .ok text =>
      let names := (text.splitOn "\x00").filter fun n => !n.isEmpty
      if names.isEmpty then die 2 ("no input from " ++ quoted source) else pure names
  | none, paths => pure (orInput paths)

/-- Sort the lines of files. -/
def sort : Tool := .ofTask fun args => do
  let g ← given sortChoices (withoutOlderKeys args)
  let g := { g with options := ← plainOptions g.options }
  if (g.values 'S').any fun text =>
      (amount? "bEgGkKmMPQRtTYZ" text).toOption.isNone && !text.endsWith "%" then
    die 2 ("invalid -S argument " ++ quoted ((g.value? 'S').getD ""))
  if g.has 'c' && g.has 'C' then refuseTogether "cC"
  let outputs := (g.values 'o').eraseDups
  if 1 < outputs.length then die 2 "multiple output files specified"
  let plan ← sortPlan g
  let paths ← sortPaths g
  let check? := g.last? ['c', 'C']
  match check?, paths with
  | some c, _ :: extra :: _ =>
    die 2 ("extra operand " ++ quoted extra ++ " not allowed with -" ++ c.toString)
  | _, _ => pure ()
  match check?, outputs with
  | some c, _ :: _ => refuseTogether (c.toString ++ "o")
  | _, _ => pure ()
  let d ← files
  paths.forM fun path => do
    if path != "-" then
      match d.stat ⟨Raw.toText path⟩ with
      | .error e => die 2 (sortMessage path e)
      | .ok (_, .file _ mode) =>
        if !mayRead mode then die 2 (sortMessage path (.os .accessDenied))
      | .ok _ => pure ()
  outputs.forM fun path => do
    match ← onMachine fun p => openPath p path .append with
    | .error e => die 2 ("open failed: " ++ quotedIfOdd path ++ ": " ++ reasonOf e)
    | .ok _ => pure ()
  let mark := if g.has 'z' then Char.ofNat 0 else '\n'
  let texts ← linesOfAll mark paths
  match check? with
  | some c => do
    match plan.disorder? 1 texts.flatten with
    | none => pure ()
    | some (n, line) => do
      if c = 'c' then
        remark (paths.headD "-" ++ ":" ++ toString n ++ ": disorder: " ++ String.ofList line)
      quit 1
  | none => do
    let lines := if g.has 'm' then plan.merged texts else plan.sorted texts.flatten
    let out := String.join (lines.map fun l => String.ofList l ++ mark.toString)
    match outputs with
    | [] => sayOr 2 out
    | path :: _ => do
      match ← onMachine fun p => openPath p path .write with
      | .error e => die 2 ("open failed: " ++ quotedIfOdd path ++ ": " ++ reasonOf e)
      | .ok channel =>
        let _ ← onMachine fun p => writeTo (p.setChannel 10 (some channel)) 10 (Raw.toBytes out)

end AslBuild.Tools
