import AslBuild.Tools.Text
set_option autoImplicit false

/-!
# Counting

## Main definitions

* `AslBuild.Tools.Tally` — what is counted in a text.
* `AslBuild.Tools.wc` — count in files.
* `AslBuild.Tools.nl` — number lines.
-/

namespace AslBuild.Tools

open FileSystem Host Text

/-! ## Tallies -/

/-- What is counted in a text: lines, words, characters, bytes, and the longest line. -/
structure Tally where
  lines : Nat := 0
  words : Nat := 0
  chars : Nat := 0
  bytes : Nat := 0
  width : Nat := 0

/-- Whether a character separates words. -/
def isSpace (c : Char) : Bool := c == ' ' || (0x09 ≤ c.toNat && c.toNat ≤ 0x0D)

/-- The words of a text, which blanks separate. -/
def wordsOf (text : String) : List String :=
  ((Text.pieces isSpace text.toList).filter fun p => !p.isEmpty).map String.ofList

/-- The widest column that is reached in some lines, from a column on. -/
def widest : Nat → Nat → List Char → Nat
  | best, column, [] => max best column
  | best, column, c :: cs =>
    if c = '\n' ∨ c = '\r' ∨ c = '\x0c' then widest (max best column) 0 cs
    else if c = '\t' then widest best (column + 8 - column % 8) cs
    else widest best (if 0x20 ≤ c.toNat ∧ c.toNat < 0x7F then column + 1 else column) cs

/-- What is counted in a text. -/
def Tally.ofText (text : String) : Tally where
  lines := text.toList.count '\n'
  words := (wordsOf text).length
  chars := text.length
  bytes := text.length
  width := widest 0 0 text.toList

/-- Two tallies together. -/
def Tally.add (a b : Tally) : Tally where
  lines := a.lines + b.lines
  words := a.words + b.words
  chars := a.chars + b.chars
  bytes := a.bytes + b.bytes
  width := max a.width b.width

/-! ## Counting in files -/

/-- The options of `wc`. -/
def wcChoices : Choices where
  letters := "clLmw"
  words := [("bytes", 'c'), ("chars", 'm'), ("lines", 'l'), ("words", 'w'), ("debug", 'd'),
    ("files0-from:", 'F'), ("max-line-length", 'L'), ("total:", 'T')]

/-- When the sum for all files is printed. -/
inductive Totals
  | ifSeveral
  | always
  | only
  | never
deriving DecidableEq

/-- The words that tell when the sum for all files is printed. -/
def totalsWords : List (List String × Totals) :=
  [(["auto"], .ifSeveral), (["always"], .always), (["only"], .only), (["never"], .never)]

/-- The numbers of a tally that options ask for. -/
def Tally.numbers (t : Tally) (g : Given) : List Nat :=
  if !g.options.any fun o => "clLmw".toList.contains o.1 then [t.lines, t.words, t.bytes]
  else
    (if g.has 'l' then [t.lines] else []) ++ (if g.has 'w' then [t.words] else []) ++
      (if g.has 'm' then [t.chars] else []) ++ (if g.has 'c' then [t.bytes] else []) ++
      if g.has 'L' then [t.width] else []

/-- How wide numbers are printed: as wide as the sum of the sizes of the files; wider if a size is
not known before the file is read. -/
def tallyWidth (desk : Desk) (g : Given) (paths : List String) : Nat :=
  let d := desk.machine.disk desk.process
  let single := ({} : Tally).numbers g |>.length
  let sizeOf (path : String) : Option Nat :=
    if path = "-" then
      let channel := (desk.process.channel? 0).bind fun c => desk.machine.channels[c]?
      match channel.map Channel.target with
      | some (.file loc) =>
        match desk.machine.tree.get? loc with
        | some (.file contents _) => some contents.length
        | _ => none
      | _ => none
    else match d.stat ⟨Raw.toText path⟩ with
      | .ok (_, .file contents _) => some contents.length
      | .ok _ => none
      | .error _ => some 0
  if single = 1 ∧ paths.length ≤ 1 then 1
  else
    let sizes := paths.map sizeOf
    let total := (sizes.map (·.getD 0)).foldl (· + ·) 0
    let wide := (toString total).length
    if sizes.any Option.isNone then max 7 wide else wide

/-- The files that another file lists, each name with a zero behind it. -/
def listedFiles (source : String) : Task (List String) := do
  match ← textOf source with
  | .error e => die 1 ("cannot open " ++ quoted source ++ " for reading: " ++ reasonOf e)
  | .ok text => pure ((markedNames text).filter fun name => !name.isEmpty)
where
  /-- The names in a text. -/
  markedNames (text : String) : List String := text.splitOn "\x00"

/-- Count in files. -/
def wc : Tool := .ofTask fun args => do
  let g ← given wcChoices args
  let totals ← match g.value? 'T' with
    | none => pure Totals.ifSeveral
    | some word => wordOf 1 "--total" totalsWords word
  let paths ← match g.value? 'F', g.operands with
    | some _, extra :: _ => do
      remark ("extra operand " ++ quoted extra)
      tell "file operands cannot be combined with --files0-from\n"
      advise 1
    | some source, [] => listedFiles source
    | none, paths => pure (orInput paths)
  let desk ← Act.read
  let width := if totals = .only then 1 else tallyWidth desk g paths
  let line (t : Tally) (name : Option String) : Task Unit :=
    say (" ".intercalate ((t.numbers g).map fun n => padLeft width (toString n)) ++
      (match name with
        | some n => " " ++ n
        | none => "") ++ "\n")
  let shown (t : Tally) (name : Option String) : Task Unit :=
    if totals = .only then pure () else line t name
  let one (total : Tally) (path : String) : Task Tally := do
    match ← textOf path with
    | .ok text => do
      let t := Tally.ofText text
      shown t (if g.operands.isEmpty && !g.has 'F' then none else some (quotedIfBroken path))
      pure (total.add t)
    | .error e => do
      warn (plainMessage path e)
      if e = .os .isDirectory then shown {} (some (quotedIfBroken path))
      pure total
  let total ← paths.foldlM one {}
  let sums : Bool := match totals with
    | .ifSeveral => 1 < paths.length
    | .always | .only => true
    | .never => false
  if sums then line total (if totals = .only then none else some "total")
where
  /-- A name, in quotes if it would break the line. -/
  quotedIfBroken (name : String) : String :=
    if name.toList.contains '\n' then quoted name else name

/-! ## Numbered lines -/

/-- What part of a page a line belongs to. -/
inductive PagePart
  | header
  | body
  | footer
deriving DecidableEq

/-- Which lines have numbers. -/
inductive Numbering
  /-- All of them. -/
  | all
  /-- Those that are not empty. -/
  | full
  /-- None of them. -/
  | none
  /-- Those in which an expression is found. -/
  | found (r : Regex)

/-- Which lines have numbers, as a text says it. -/
def Numbering.ofText? (text : String) : Option Numbering :=
  match text.toList with
  | ['a'] => some .all
  | ['t'] => some .full
  | ['n'] => some .none
  | 'p' :: cs => ((Regex.ofChars { extended := false } cs).toOption).map .found
  | _ => Option.none

/-- How numbers are written. -/
inductive NumberForm
  /-- At the left. -/
  | left
  /-- At the right. -/
  | right
  /-- At the right, with zeros in front. -/
  | zeros
deriving DecidableEq

/-- How lines are numbered. -/
structure LineNumbers where
  /-- Which lines of the headers have numbers. -/
  header : Numbering := .none
  /-- Which lines of the bodies have numbers. -/
  body : Numbering := .full
  /-- Which lines of the footers have numbers. -/
  footer : Numbering := .none
  /-- The first number. -/
  first : Int := 1
  /-- How much a number is larger than the one before it. -/
  step : Int := 1
  /-- Whether the numbers start again with each part of a page. -/
  restarts : Bool := true
  /-- How many empty lines count as one. -/
  joined : Nat := 1
  /-- What stands behind a number. -/
  separator : String := "\t"
  /-- How wide numbers are. -/
  width : Nat := 6
  /-- How they are written. -/
  form : NumberForm := .right
  /-- What starts a part of a page, so many times over. -/
  sign : String := "\\:"

/-- A number as it is written. -/
def LineNumbers.shown (k : LineNumbers) (n : Int) : String :=
  match k.form with
  | .left => padRight k.width (toString n)
  | .right => padLeft k.width (toString n)
  | .zeros =>
    let digits := toString n.natAbs
    let sign := if n < 0 then "-" else ""
    sign ++ String.ofList (List.replicate (k.width - sign.length - digits.length) '0') ++ digits

/-- The part of a page that a line starts. -/
def LineNumbers.start? (k : LineNumbers) (line : String) : Option PagePart :=
  if k.sign.isEmpty then Option.none
  else if line = k.sign ++ k.sign ++ k.sign then some .header
  else if line = k.sign ++ k.sign then some .body
  else if line = k.sign then some .footer
  else Option.none

/-- What comes before a line: the next number, the part of the page, and how many empty lines were
left out last. -/
structure Numbered where
  next : Int
  part : PagePart := .body
  skipped : Nat := 0

/-- Which lines of a part have numbers. -/
def LineNumbers.of (k : LineNumbers) : PagePart → Numbering
  | .header => k.header
  | .body => k.body
  | .footer => k.footer

/-- A line with its number, and what comes behind it. -/
def LineNumbers.line (k : LineNumbers) (s : Numbered) (line : String) : Numbered × String :=
  match k.start? line with
  | some part => ({ s with part, next := if k.restarts then k.first else s.next }, "\n")
  | Option.none =>
    let counts : Bool × Nat := match k.of s.part with
      | .all =>
        if k.joined ≤ 1 then (true, s.skipped)
        else if !line.isEmpty || s.skipped + 1 = k.joined then (true, 0)
        else (false, s.skipped + 1)
      | .full => (!line.isEmpty, s.skipped)
      | .none => (false, s.skipped)
      | .found r => (Regex.isIn r line.toList, s.skipped)
    if counts.1 then
      ({ s with next := s.next + k.step, skipped := counts.2 },
        k.shown s.next ++ k.separator ++ line ++ "\n")
    else
      ({ s with skipped := counts.2 }, padLeft (k.width + k.separator.length) "" ++ line ++ "\n")

/-- The options of `nl`. -/
def nlChoices : Choices where
  letters := "b:d:f:h:i:l:n:ps:v:w:"
  words := [("header-numbering", 'h'), ("body-numbering", 'b'), ("footer-numbering", 'f'),
    ("starting-line-number", 'v'), ("line-increment", 'i'), ("no-renumber", 'p'),
    ("join-blank-lines", 'l'), ("number-separator", 's'), ("number-width", 'w'),
    ("number-format", 'n'), ("section-delimiter", 'd')]

/-- How options ask for lines to be numbered, one after the other. -/
def lineNumbersFrom : LineNumbers → Bool → List (Char × String) → Task LineNumbers
  | k, fine, [] => if fine then pure k else advise 1
  | k, fine, (c, text) :: options => do
    let numbering (what : String) : Task (Option Numbering) := do
      match Numbering.ofText? text with
      | some n => pure (some n)
      | Option.none => do
        remark ("invalid " ++ what ++ " numbering style: " ++ quoted text)
        pure Option.none
    match c with
    | 'h' => do
      match ← numbering "header" with
      | some header => lineNumbersFrom { k with header } fine options
      | Option.none => lineNumbersFrom k false options
    | 'b' => do
      match ← numbering "body" with
      | some body => lineNumbersFrom { k with body } fine options
      | Option.none => lineNumbersFrom k false options
    | 'f' => do
      match ← numbering "footer" with
      | some footer => lineNumbersFrom { k with footer } fine options
      | Option.none => lineNumbersFrom k false options
    | 'v' => do
      let first ← integerOf "invalid starting line number" text
      lineNumbersFrom { k with first } fine options
    | 'i' => do
      let step ← integerOf "invalid line number increment" text
      lineNumbersFrom { k with step } fine options
    | 'l' => do
      let joined ← amountOf "invalid line number of blank lines" "" 1 text
      lineNumbersFrom { k with joined } fine options
    | 'w' => do
      let width ← amountOf "invalid line number field width" "" 1 text
      lineNumbersFrom { k with width } fine options
    | 'n' =>
      match [("ln", NumberForm.left), ("rn", .right), ("rz", .zeros)].lookup text with
      | some form => lineNumbersFrom { k with form } fine options
      | Option.none => do
        remark ("invalid line numbering format: " ++ quoted text)
        lineNumbersFrom k false options
    | 'p' => lineNumbersFrom { k with restarts := false } fine options
    | 's' => lineNumbersFrom { k with separator := text } fine options
    | _ => lineNumbersFrom { k with sign := if text.length = 1 then text ++ ":" else text } fine options

/-- Print files with their lines numbered. -/
def nl : Tool := .ofTask fun args => do
  let g ← given nlChoices args
  let k ← lineNumbersFrom {} true g.options
  let _ ← (orInput g.operands).foldlM (fun s path => do
    match ← textOf path with
    | .ok text => do
      let (s, out) := (linesOf text).foldl (fun (s, out) line =>
        let (s, shown) := k.line s line
        (s, shown :: out)) (s, [])
      say (String.join out.reverse)
      pure s
    | .error e => do
      warn (plainMessage path e)
      pure s) ({ next := k.first } : Numbered)

end AslBuild.Tools
