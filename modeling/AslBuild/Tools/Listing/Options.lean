import AslBuild.Tools.Amount
import AslBuild.Tools.Listing.Names
import AslBuild.Tools.Option
set_option autoImplicit false

/-!
# How directories are listed

## Main definitions

* `AslBuild.Tools.SizeUnit` — in what units sizes are shown.
* `AslBuild.Tools.Listing` — what a listing shows, in which order and in which form.
* `AslBuild.Tools.Listing.ofArguments` — the listing that arguments ask for.
-/

namespace AslBuild.Tools

open Text

/-! ## Units -/

/-- In what units sizes are shown. -/
inductive SizeUnit
  /-- In units of so many bytes, with some letters behind the number. -/
  | fixed (bytes : Nat) (letters : String)
  /-- In the power of a base that fits. -/
  | fitting (base : Nat)
deriving DecidableEq

namespace SizeUnit

/-- The letters for powers of a base. -/
def powers (base : Nat) : List String :=
  (if base = 1000 then "k" else "K") :: ["M", "G", "T", "P", "E", "Z", "Y", "R", "Q"]

/-- The text of a number of bytes in the power of a base that fits, rounded up: `unit` bytes, or a
higher power. -/
def fit (bytes base : Nat) : Nat → List String → String
  | _, [] => toString bytes
  | unit, p :: ps =>
    let tenths := (bytes * 10 + unit - 1) / unit
    let whole := (bytes + unit - 1) / unit
    if tenths < 100 then toString (tenths / 10) ++ "." ++ toString (tenths % 10) ++ p
    else if whole < base || ps.isEmpty then toString whole ++ p
    else fit bytes base (unit * base) ps

/-- The text of a number of bytes. -/
def text (u : SizeUnit) (bytes : Nat) : String :=
  match u with
  | .fixed unit letters => toString ((bytes + unit - 1) / unit) ++ letters
  | .fitting base =>
    if bytes < base then toString bytes else fit bytes base base (powers base)

/-- The units that a text spells. -/
def ofText? (text : String) : Except AmountProblem SizeUnit :=
  if !text.isEmpty && "human-readable".startsWith text then .ok (.fitting 1024)
  else if !text.isEmpty && "si".startsWith text then .ok (.fitting 1000)
  else match amountIn 0 "eEgGkKmMpPtTyYzZ0" text with
    | .ok 0 => .error .invalid
    | .ok n => .ok (.fixed n (if text.toList.any Char.isDigit then "" else text))
    | .error problem => .error problem

end SizeUnit

/-! ## Listings -/

/-- The forms of a listing. -/
inductive ListingForm
  /-- A line for every name, with what is known of it. -/
  | long
  /-- A line for every name. -/
  | lines
  /-- Columns that are read down, or across. -/
  | columns (across : Bool)
  /-- Names with commas between them. -/
  | commas
deriving DecidableEq

/-- What names are ordered by. -/
inductive ListingOrder
  | name
  | none
  | time
  | size
  | ending
  | version
  | width
deriving DecidableEq

/-- What signs behind names tell kinds of files. -/
inductive Signs
  | none
  | slash
  | kinds
  | all
deriving DecidableEq

/-- Which links are followed. -/
inductive Following
  | none
  | given
  | givenDirectories
  | all
deriving DecidableEq

/-- Which names with a dot in front are shown. -/
inductive Dotted
  | none
  | almost
  | all
deriving DecidableEq

/-- What a listing shows, in which order and in which form. -/
structure Listing where
  /-- The form. -/
  form : ListingForm := .lines
  /-- The order, if one was asked for. -/
  order : Option ListingOrder := none
  /-- Whether the order is reversed. -/
  reversed : Bool := false
  /-- The signs behind names. -/
  signs : Signs := .none
  /-- How names are shown. -/
  style : NameStyle := .literal
  /-- Whether question marks stand for what cannot be printed. -/
  hides : Bool := false
  /-- Which names with a dot in front are shown. -/
  dotted : Dotted := .none
  /-- Patterns of names that are left out. -/
  ignored : List String := []
  /-- Patterns of names that are left out unless all names are shown. -/
  hidden : List String := []
  /-- Whether the numbers of files are shown. -/
  numbers : Bool := false
  /-- Whether the space that files take up is shown. -/
  blocks : Bool := false
  /-- Whether directories come first. -/
  dirsFirst : Bool := false
  /-- Whether directories are shown themselves, and not what is in them. -/
  themselves : Bool := false
  /-- Whether directories in directories are listed, too. -/
  recursive : Bool := false
  /-- Which links are followed, if that was said. -/
  following : Option Following := none
  /-- Whether owner and group are shown, the author with them, and as numbers. -/
  owner : Bool := true
  group : Bool := true
  author : Bool := false
  numeric : Bool := false
  /-- Whether a place for contexts is left. -/
  context : Bool := false
  /-- Whether another time than that of the last change was asked for. -/
  otherTime : Bool := false
  /-- How times are shown: those long ago, and recent ones. -/
  times : String × String := ("%b %e  %Y", "%b %e %H:%M")
  /-- The width of a line, unless it has no end. -/
  width : Option Nat := some 80
  /-- The width of a tab. -/
  tab : Nat := 8
  /-- The units of sizes. -/
  unit : SizeUnit := .fixed 1 ""
  /-- The units of the space that files take up. -/
  blockUnit : SizeUnit := .fixed 1024 ""
  /-- What ends a line. -/
  finish : Char := '\n'
  /-- Whether names are shown in colors. -/
  colored : Bool := false

/-- The status of `ls` if it goes wrong. -/
def listingTrouble : Nat := 2

/-- The options of `ls`. -/
def listingChoices : Choices where
  letters := "abcdfghiklmnopqrstuvw:xABCDFGHI:LNQRST:UXZ1"
  words := [("all", 'a'), ("escape", 'b'), ("directory", 'd'), ("dired", 'D'),
    ("full-time", '\x01'), ("group-directories-first", '\x02'), ("human-readable", 'h'),
    ("inode", 'i'), ("kibibytes", 'k'), ("numeric-uid-gid", 'n'), ("no-group", 'G'),
    ("hide-control-chars", 'q'), ("reverse", 'r'), ("size", 's'), ("width", 'w'),
    ("almost-all", 'A'), ("ignore-backups", 'B'), ("classify::", '\x03'), ("file-type", '\x04'),
    ("si", '\x05'), ("dereference-command-line", 'H'),
    ("dereference-command-line-symlink-to-dir", '\x06'), ("hide:", '\x07'), ("ignore", 'I'),
    ("indicator-style:", '\x08'), ("dereference", 'L'), ("literal", 'N'), ("quote-name", 'Q'),
    ("quoting-style:", '\x0b'), ("recursive", 'R'), ("format:", '\x0c'),
    ("show-control-chars", '\x0e'), ("sort:", '\x0f'), ("tabsize", 'T'), ("time:", '\x10'),
    ("time-style:", '\x11'), ("zero", '\x12'), ("color::", '\x13'), ("hyperlink::", '\x14'),
    ("block-size:", '\x15'), ("context", 'Z'), ("author", '\x16')]
  trouble := listingTrouble

/-- The words that say when something is done, where the output is no terminal. -/
def whenWords : List (List String × Bool) :=
  [(["always", "yes", "force"], true), (["never", "no", "none"], false),
    (["auto", "tty", "if-tty"], false)]

/-- The words for forms. -/
def formWords : List (List String × ListingForm) :=
  [(["verbose", "long"], .long), (["commas"], .commas), (["horizontal", "across"], .columns true),
    (["vertical"], .columns false), (["single-column"], .lines)]

/-- The words for orders. -/
def orderWords : List (List String × ListingOrder) :=
  [(["none"], .none), (["time"], .time), (["size"], .size), (["extension"], .ending),
    (["version"], .version), (["width"], .width)]

/-- The words for signs. -/
def signWords : List (List String × Signs) :=
  [(["none"], .none), (["slash"], .slash), (["file-type"], .kinds), (["classify"], .all)]

/-- The words for times, and whether they name another one than that of the last change. -/
def listingTimeWords : List (List String × Nat) :=
  [(["atime", "access", "use"], 1), (["ctime", "status"], 2), (["mtime", "modification"], 0),
    (["birth", "creation"], 3)]

/-- The width that a text spells; none if there is no limit. -/
def widthOf? (text : String) : Option (Option Nat) :=
  match amountIn 0 "" text with
  | .ok 0 => some none
  | .ok n => some (some n)
  | .error .tooLarge => some none
  | .error _ => none

/-- Take an option into account. -/
def Listing.take (k : Listing) (c : Char) (value : String) : Task Listing := do
  let word {α : Type} [DecidableEq α] (option : String) (words : List (List String × α)) :
      Task α :=
    wordOf listingTrouble ("--" ++ option) words value
  match c with
  | 'a' => pure { k with dotted := .all }
  | 'A' => pure { k with dotted := .almost }
  | 'b' => pure { k with style := .escapes }
  | 'c' | 'u' => pure { k with otherTime := true }
  | 'd' => pure { k with themselves := true }
  | 'f' => pure { k with dotted := .all, order := some .none }
  | 'g' => pure { k with form := .long, owner := false }
  | 'h' => pure { k with unit := .fitting 1024, blockUnit := .fitting 1024 }
  | 'i' => pure { k with numbers := true }
  | 'k' => pure { k with blockUnit := .fixed 1024 "" }
  | 'l' => pure { k with form := .long }
  | 'm' => pure { k with form := .commas }
  | 'n' => pure { k with form := .long, numeric := true }
  | 'o' => pure { k with form := .long, group := false }
  | 'p' => pure { k with signs := .slash }
  | 'q' => pure { k with hides := true }
  | 'r' => pure { k with reversed := true }
  | 's' => pure { k with blocks := true }
  | 't' => pure { k with order := some .time }
  | 'v' => pure { k with order := some .version }
  | 'w' =>
    match widthOf? value with
    | some width => pure { k with width }
    | none => die listingTrouble ("invalid line width: " ++ cited value)
  | 'x' => pure { k with form := .columns true }
  | 'B' => pure { k with ignored := ["*~", ".*~"] ++ k.ignored }
  | 'C' => pure { k with form := .columns false }
  | 'F' => pure { k with signs := .all }
  | 'G' => pure { k with group := false }
  | 'H' => pure { k with following := some .given }
  | 'I' => pure { k with ignored := value :: k.ignored }
  | 'L' => pure { k with following := some .all }
  | 'N' => pure { k with style := .literal }
  | 'Q' => pure { k with style := .double true }
  | 'R' => pure { k with recursive := true }
  | 'S' => pure { k with order := some .size }
  | 'T' =>
    match amountIn 0 "" value with
    | .ok tab => pure { k with tab }
    | .error _ => die listingTrouble ("invalid tab size: " ++ cited value)
  | 'U' => pure { k with order := some .none }
  | 'X' => pure { k with order := some .ending }
  | 'Z' => pure { k with context := true }
  | '1' => pure (if k.form = .long then k else { k with form := .lines })
  | '\x01' =>
    pure { k with form := .long, times := ("%Y-%m-%d %H:%M:%S.%N %z", "%Y-%m-%d %H:%M:%S.%N %z") }
  | '\x02' => pure { k with dirsFirst := true }
  | '\x03' => do
    let wanted ← if value.isEmpty then pure true else word "classify" whenWords
    pure (if wanted then { k with signs := .all } else k)
  | '\x04' => pure { k with signs := .kinds }
  | '\x05' => pure { k with unit := .fitting 1000, blockUnit := .fitting 1000 }
  | '\x06' => pure { k with following := some .givenDirectories }
  | '\x07' => pure { k with hidden := value :: k.hidden }
  | '\x08' => do pure { k with signs := ← word "indicator-style" signWords }
  | '\x0b' => do pure { k with style := ← word "quoting-style" NameStyle.words }
  | '\x0c' => do pure { k with form := ← word "format" formWords }
  | '\x0e' => pure { k with hides := false }
  | '\x0f' => do pure { k with order := some (← word "sort" orderWords) }
  | '\x10' => do pure { k with otherTime := (← word "time" listingTimeWords) ≠ 0 }
  | '\x12' =>
    pure { k with
      finish := '\x00', colored := false, style := .literal, hides := false
      form := if k.form = .long then .long else .lines }
  | '\x13' => do
    pure { k with colored := ← if value.isEmpty then pure true else word "color" whenWords }
  | '\x14' => do
    let _ ← if value.isEmpty then pure true else word "hyperlink" whenWords
    pure k
  | '\x15' =>
    match SizeUnit.ofText? value with
    | .ok unit => pure { k with unit, blockUnit := unit }
    | .error .suffix => die listingTrouble ("invalid suffix in --block-size argument " ++ quoted value)
    | .error .tooLarge => die listingTrouble ("--block-size argument " ++ quoted value ++ " too large")
    | .error .invalid => die listingTrouble ("invalid --block-size argument " ++ quoted value)
  | '\x16' => pure { k with author := true }
  | _ => pure k

/-- The forms of times that a word stands for: those long ago, and recent ones. -/
def timesOf (text : String) : Task (String × String) := do
  let style := (if text.startsWith "posix-" then "locale" else text)
  match style.toList with
  | '+' :: cs =>
    match (String.ofList cs).splitOn "\n" with
    | [template] => pure (template, template)
    | [old, recent] => pure (old, recent)
    | _ => die listingTrouble ("invalid time style format " ++ cited (String.ofList cs))
  | _ =>
    let all := ["full-iso", "long-iso", "iso", "locale"]
    let found := if all.contains style then [style] else all.filter (·.startsWith style)
    match found with
    | ["full-iso"] => pure ("%Y-%m-%d %H:%M:%S.%N %z", "%Y-%m-%d %H:%M:%S.%N %z")
    | ["long-iso"] => pure ("%Y-%m-%d %H:%M", "%Y-%m-%d %H:%M")
    | ["iso"] => pure ("%Y-%m-%d ", "%m-%d %H:%M")
    | ["locale"] => pure ("%b %e  %Y", "%b %e %H:%M")
    | _ => do
      remark ((if found.isEmpty then "invalid" else "ambiguous") ++ " argument " ++
        quoted style ++ " for " ++ quoted "time style")
      tell ("Valid arguments are:\n  - [posix-]full-iso\n  - [posix-]long-iso\n" ++
        "  - [posix-]iso\n  - [posix-]locale\n" ++
        "  - +FORMAT (e.g., +%H:%M) for a 'date'-style format\n")
      advise listingTrouble

/-- Whether the variables tell of a terminal that shows colors. -/
def knowsColors (p : Host.Process) : Bool :=
  let given (name : String) : Bool := ((p.value? name).getD "") != ""
  let terminal := (p.value? "TERM").getD ""
  given "LS_COLORS" || given "COLORTERM" ||
    (["xterm", "screen", "tmux", "rxvt", "linux", "vt100", "ansi", "cygwin", "con", "st", "putty",
      "konsole", "gnome", "kterm", "mlterm"].any fun t => terminal.startsWith t) ||
    1 < (terminal.splitOn "color").length

/-- The listing that arguments ask for, and the paths among them. -/
def Listing.ofArguments (args : List String) : Task (Listing × List String) := do
  let g ← given listingChoices args
  let p := (← Act.read).process
  let start : Listing :=
    { style := ((p.value? "QUOTING_STYLE").bind fun w =>
        (NameStyle.words.flatMap fun x => x.1.map (·, x.2)).lookup w).getD .literal
      width := ((p.value? "COLUMNS").bind widthOf?).getD (some 80)
      tab := match amountIn 0 "" ((p.value? "TABSIZE").getD "8") with
        | .ok n => n
        | .error _ => 8 }
  match p.value? "QUOTING_STYLE" with
  | some w =>
    if !(NameStyle.words.any fun x => x.1.contains w) then
      remark ("ignoring invalid value of environment variable QUOTING_STYLE: " ++ cited w)
  | none => pure ()
  let k ← g.options.foldlM (fun k (c, value) => Listing.take k c value) start
  let k := { k with colored := k.colored && knowsColors p }
  if k.form ≠ .long then pure (k, g.operands)
  else match (g.options.filter fun o => o.1 == '\x01' || o.1 == '\x11').getLast? with
    | some ('\x11', style) => do pure ({ k with times := ← timesOf style }, g.operands)
    | some _ => pure (k, g.operands)
    | none =>
      match p.value? "TIME_STYLE" with
      | some style => do pure ({ k with times := ← timesOf style }, g.operands)
      | none => pure (k, g.operands)

end AslBuild.Tools
