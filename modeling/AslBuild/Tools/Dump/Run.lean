import AslBuild.Tools.Amount
import AslBuild.Tools.Dump.Style
import AslBuild.Tools.Option
import AslBuild.Tools.Paths
import AslBuild.Tools.Text
set_option autoImplicit false

/-!
# Dumps

A dump shows all bytes of some files, one after the other: a row of them per line, behind the place
of the first. Instead it may show only the texts among them.

## Main definitions

* `AslBuild.Tools.Dump` — what is shown, and how.
* `AslBuild.Tools.dumpRows` — the lines of a dump.
* `AslBuild.Tools.textsIn` — the texts among bytes.
* `AslBuild.Tools.od` — dump files.
-/

namespace AslBuild.Tools

open FileSystem Host Text

/-! ## Options -/

/-- What is shown, and how. -/
structure Dump where
  /-- The base of the places, if they are shown. -/
  base : Option Nat := some 8
  /-- How many bytes are passed over. -/
  skip : Nat := 0
  /-- How many bytes are read at most. -/
  limit : Option Nat := none
  /-- How long a text is at least, if only texts are shown. -/
  texts : Option Nat := none
  /-- The styles. -/
  styles : List DumpStyle := []
  /-- Whether all styles made sense. -/
  good : Bool := true
  /-- Whether rows that are like the one before are shown, too. -/
  all : Bool := false
  /-- How many bytes a row has. -/
  perRow : Option Nat := none
  /-- Whether the bytes of a unit stand in the other order. -/
  swapped : Bool := false
  /-- Whether places may be given besides a file. -/
  placed : Bool := false
  /-- Whether an option was given that goes with no such place. -/
  modern : Bool := false
  /-- The place that the first byte shown is said to have, too. -/
  label : Option Nat := none

/-- The letters that make the numbers of `od` larger. -/
def dumpSuffixes : String := "bEGKkMmPQRTYZ0"

/-- The options of `od`. -/
def dumpChoices : Choices where
  letters := "A:aBbcDdeFfHhIij:LlN:OoS:st:vw::Xx"
  words := [("skip-bytes", 'j'), ("address-radix", 'A'), ("read-bytes", 'N'), ("format", 't'),
    ("output-duplicates", 'v'), ("strings::", 'S'), ("traditional", 'T'), ("width", 'w'),
    ("endian:", 'E')]

/-- The styles that letters are short for. -/
def styleLetters : List (Char × String) :=
  [('a', "a"), ('b', "o1"), ('c', "c"), ('D', "u4"), ('d', "u2"), ('F', "fD"), ('e', "fD"),
    ('f', "fF"), ('X', "x4"), ('H', "x4"), ('i', "dI"), ('I', "dL"), ('L', "dL"), ('l', "dL"),
    ('O', "o4"), ('B', "o2"), ('o', "o2"), ('s', "d2"), ('h', "x2"), ('x', "x2")]

/-- Show bytes in the styles that a text spells, too. -/
def Dump.addStyles (k : Dump) (text : String) : Task Dump := do
  match dumpStyles (text.length + 1) text.toList with
  | .ok styles => pure { k with styles := k.styles ++ styles }
  | .error problem => do
    warn (problem.message text)
    pure { k with good := false }

/-- Take an option into account. `name` is how it was given. -/
def Dump.take (name : String) (k : Dump) (c : Char) (value : String) : Task Dump := do
  let modern := { k with modern := true }
  match c with
  | 'A' =>
    match value.toList.head? with
    | some 'd' => pure { modern with base := some 10 }
    | some 'o' => pure { modern with base := some 8 }
    | some 'x' => pure { modern with base := some 16 }
    | some 'n' => pure { modern with base := none }
    | c => die 1 ("invalid output address radix '" ++ (c.getD (Char.ofNat 0)).toString ++
        "'; it must be one character from [doxn]")
  | 'j' => do pure { modern with skip := ← optionAmount 0 dumpSuffixes name value }
  | 'N' => do pure { modern with limit := some (← optionAmount 0 dumpSuffixes name value) }
  | 'S' => do
    let least ← if value.isEmpty then pure 3 else optionAmount 0 dumpSuffixes name value
    pure { modern with texts := some least }
  | 't' => modern.addStyles value
  | 'v' => pure { modern with all := true }
  | 'T' => pure { k with placed := true }
  | 'E' => do
    pure { k with
      swapped := ← wordOf 1 "--endian" [(["little"], false), (["big"], true)] value }
  | 'w' => do
    let n ← if value.isEmpty then pure 32 else optionAmount 10 "" name value
    pure { modern with perRow := some n }
  | c => k.addStyles ((styleLetters.lookup c).getD "")

/-! ## Places among the operands -/

/-- The place that an operand spells, in octal digits unless it says otherwise. -/
def placeOf? (text : String) : Option Nat :=
  if text.isEmpty then none
  else
    let cs := text.toList
    let cs := if cs.head? = some '+' then cs.drop 1 else cs
    let base := if cs.contains '.' then 10
      else match cs with
        | '0' :: x :: _ => if x = 'x' ∨ x = 'X' then 16 else 8
        | _ => 8
    (amountIn base "Bb" (String.ofList cs)).toOption

/-- The files among some operands, and the places that are given besides. -/
def Dump.placesIn (k : Dump) (operands : List String) : Dump × List String :=
  let marked (text : String) : Bool := k.placed || text.startsWith "+"
  if k.modern && !k.placed then (k, operands)
  else match operands with
    | [a] =>
      match marked a, placeOf? a with
      | true, some n => ({ k with skip := n }, [])
      | _, _ => (k, operands)
    | [a, b] =>
      match marked b || (b.toList.head?).any Char.isDigit, placeOf? b with
      | true, some n =>
        match k.placed, placeOf? a with
        | true, some skip => ({ k with skip, label := some n }, [])
        | _, _ => ({ k with skip := n }, [a])
      | _, _ => (k, operands)
    | [a, b, c] =>
      match k.placed, placeOf? b, placeOf? c with
      | true, some skip, some n => ({ k with skip, label := some n }, [a])
      | _, _, _ => (k, operands)
    | _ => (k, operands)

/-! ## Lines -/

/-- A place in front of a row, or at the end. -/
def Dump.address (k : Dump) (place : Nat) (finish : String) : String :=
  let text (base n : Nat) : String := paddedDigits base (if base = 16 then 6 else 7) n
  match k.label, k.base with
  | none, none => ""
  | none, some base => text base place ++ finish
  | some n, none => "(" ++ text 8 (n + place - k.skip) ++ ")" ++ finish
  | some n, some base => text base place ++ " (" ++ text base (n + place - k.skip) ++ ")" ++ finish

/-- The rows of a dump. A row like the one in front of it is left out, and a star stands for all of
them, unless `all` says otherwise. At most so many rows are shown. -/
def dumpRows (address : Nat → String) (row : List Nat → String) (perRow : Nat) (all : Bool) :
    Nat → Nat → Option (List Nat) → Bool → List Nat → List String
  | 0, _, _, _, _ => []
  | _, _, _, _, [] => []
  | n + 1, place, before, starred, bytes =>
    let here := bytes.take perRow
    let rest := bytes.drop perRow
    let next (starred : Bool) : List String :=
      dumpRows address row perRow all n (place + here.length) (some here) starred rest
    if !all && before == some here then
      if starred then next true else "*" :: next true
    else (address place ++ row here) :: next false

/-- The texts among bytes, each with its place: characters that can be printed, at least so many of
them, in front of a zero. No byte is read from `finish` on. At most so many pieces are read. -/
def textsIn (least : Nat) (finish : Option Nat) : Nat → Nat → List Nat → List (Nat × String)
  | 0, _, _ => []
  | n + 1, place, bytes =>
    if finish.any fun e => e < least || e - least ≤ place then []
    else
      let run := bytes.takeWhile fun b => 0x20 ≤ b && b < 0x7F
      let text (run : List Nat) : String := String.ofList (run.map Char.ofNat)
      let allowed := (finish.map fun e => max least (e - place)).getD (run.length + 1)
      if least ≤ run.length && allowed ≤ run.length then [(place - 1, text (run.take allowed))]
      else
        let others := textsIn least finish n (place + run.length + 1) (bytes.drop (run.length + 1))
        if least ≤ run.length && (bytes[run.length]?) == some 0 then (place, text run) :: others
        else others

/-! ## Running -/

/-- What was read of some files. -/
structure DumpInput where
  /-- The text. -/
  text : String := ""
  /-- Whether any of the files could be opened. -/
  opened : Bool := false
  /-- How much had been read when one could not be opened. -/
  stumbled : Option Nat := none

/-- Read files, up to so many bytes. -/
def dumpInput (need : Option Nat) : List String → DumpInput → Task DumpInput
  | [], s => pure s
  | path :: paths, s => do
    if s.opened && need.any (· ≤ s.text.length) then pure s
    else
      match ← textUpTo (need.map (· - s.text.length)) path with
      | .ok more => dumpInput need paths { s with opened := true, text := s.text ++ more }
      | .error e => do
        warn ((if path = "-" then "standard input" else quotedIfOdd path) ++ ": " ++ reasonOf e)
        if e = .os .isDirectory then dumpInput need paths { s with opened := true }
        else if s.opened && s.stumbled.isNone then
          dumpInput need paths { s with stumbled := some s.text.length }
        else dumpInput need paths s

/-- Whether a device lies at a path. -/
def isDevice (path : String) : Task Bool := do
  if path = "-" then
    match (← channelOf 0).map Channel.target with
    | some (.device _) => pure true
    | _ => pure false
  else
    match ← entryAt path with
    | .ok (.device _) => pure true
    | _ => pure false

/-- Dump files. Nothing is read beyond the row in which a file could not be opened, and if that row is
full then the one before it is shown again. -/
def od : Tool := .ofTask fun args => do
  let g ← given dumpChoices args
  let nameOf (c : Char) : String :=
    let word := (dumpChoices.optionWords.find? fun w => w.letter == c).map OptionWord.name
    match word.filter fun w => args.any fun a => a.startsWith ("--" ++ (w.take 1).toString) with
    | some w => "--" ++ w
    | none => "-" ++ c.toString
  let k ← g.options.foldlM (fun k (c, value) => Dump.take (nameOf c) k c value) ({} : Dump)
  if !k.good then quit 1
  if k.texts.isSome && !k.styles.isEmpty then
    die 1 "no type may be specified when dumping strings"
  let (k, operands) := k.placesIn g.operands
  match k.placed, operands with
  | true, _ :: extra :: _ => do
    remark ("extra operand " ++ quoted extra)
    misuse 1 "compatibility mode supports at most one file"
  | _, _ => pure ()
  let finish := k.limit.map (k.skip + ·)
  if finish.any (maxAmount < ·) then die 1 "skip-bytes + read-bytes is too large"
  let need := if k.texts.isSome then none else finish
  let input ← dumpInput need (orInput operands) {}
  if !input.opened then quit 1
  if input.text.length < k.skip && !(← (orInput operands).anyM isDevice) then
    die 1 "cannot skip past end of combined input"
  let bytes := (input.text.toList.map Char.toNat).drop k.skip
  match k.texts with
  | some least =>
    let found := textsIn least finish (bytes.length + 1) k.skip bytes
    say (unlines (found.map fun (place, text) => k.address place " " ++ text))
  | none => do
    let styles := if k.styles.isEmpty then [⟨.unsigned 8, 2, false⟩] else k.styles
    let common := (styles.map DumpStyle.size).foldl Nat.lcm 1
    let perRow ← match k.perRow with
      | none => pure (if common < 16 then common * (16 / common) else common)
      | some n =>
        if n = 0 then Act.fail (.killed 6)
        else if n % common = 0 then pure n
        else do
          remark ("warning: invalid width " ++ toString n ++ "; using " ++ toString common ++
            " instead")
          pure common
    let width := (styles.map (DumpStyle.rowWidth · perRow)).foldl max 0
    let blank := String.ofList (List.replicate
      (match k.base with
        | some 16 => 6
        | some _ => 7
        | none => if k.label.isSome then 7 else 0) ' ')
    let row (here : List Nat) : String :=
      ("\n" ++ blank).intercalate (styles.map fun s => s.row k.swapped perRow width here)
    let reached := (input.stumbled.map fun n => ((n - k.skip) / perRow + 1) * perRow).filter
      (· ≤ bytes.length)
    let shown := (reached.map bytes.take).getD bytes
    let last := shown.drop (shown.length - perRow)
    let again := if reached.isNone then []
      else if shown.length < 2 * perRow then List.replicate perRow 0
      else (shown.drop (shown.length - 2 * perRow)).take perRow
    say (unlines (dumpRows (k.address · "") row perRow k.all (shown.length + 1) k.skip none false
      shown))
    let finish := k.skip + shown.length
    say (unlines (dumpRows (k.address · "") row perRow k.all (again.length + 1) finish (some last)
      false again))
    say (k.address (finish + again.length) "\n")

end AslBuild.Tools
