import AslBuild.Text.Regex
import AslBuild.Tools.Amount
import AslBuild.Tools.Option
set_option autoImplicit false

/-!
# Tools that hand text on

## Main definitions

* `AslBuild.Tools.forTexts` — do something with the text of every file.
* `AslBuild.Tools.cat`, `AslBuild.Tools.tee` — print files, and copy the input.
* `AslBuild.Tools.tac`, `AslBuild.Tools.rev` — turn texts round.
-/

namespace AslBuild.Tools

open FileSystem Host Text

/-- Do something with the text of every file, and complain about those that cannot be read. -/
def forTexts (message : String → IoError → String) (f : String → String → Task Unit)
    (paths : List String) : Task Unit :=
  paths.forM fun path => do
    match ← textOf path with
    | .ok text => f path text
    | .error e => warn (message path e)

/-- What is usually said of a file that cannot be read. -/
def plainMessage (path : String) (e : IoError) : String := quotedIfOdd path ++ ": " ++ reasonOf e

/-- What is said of a file that cannot be opened, or cannot be read once it is open. -/
def openMessage (path : String) (e : IoError) : String :=
  if e = .os .isDirectory then "error reading " ++ quoted path ++ ": " ++ reasonOf e
  else "cannot open " ++ quoted path ++ " for reading: " ++ reasonOf e

/-- The files that are read if none are named. -/
def orInput (paths : List String) : List String := if paths.isEmpty then ["-"] else paths

/-! ## Files one after the other -/

/-- The options of `cat`. -/
def catChoices : Choices where
  letters := "AbeEnstTuv"
  words := [("number-nonblank", 'b'), ("number", 'n'), ("squeeze-blank", 's'),
    ("show-nonprinting", 'v'), ("show-ends", 'E'), ("show-tabs", 'T'), ("show-all", 'A')]

/-- How texts are printed. -/
structure Marking where
  /-- Whether lines have numbers. -/
  numbers : Bool
  /-- Whether only lines have numbers that are not empty. -/
  skipsEmpty : Bool
  /-- Whether several empty lines are printed as one. -/
  squeezes : Bool
  /-- Whether the ends of lines are marked. -/
  ends : Bool
  /-- Whether tabs are marked. -/
  tabs : Bool
  /-- Whether other characters than printable ones are marked. -/
  hidden : Bool

/-- How options ask for texts to be printed. -/
def Marking.ofGiven (g : Given) : Marking where
  numbers := g.has 'n' || g.has 'b'
  skipsEmpty := g.has 'b'
  squeezes := g.has 's'
  ends := g.has 'E' || g.has 'e' || g.has 'A'
  tabs := g.has 'T' || g.has 't' || g.has 'A'
  hidden := g.has 'v' || g.has 'e' || g.has 't' || g.has 'A'

/-- A character as it is shown if others than printable ones are marked. -/
def markedChar (c : Char) : String :=
  let low (n : Nat) : String :=
    if n < 0x20 then "^" ++ (Char.ofNat (n + 64)).toString
    else if n = 0x7F then "^?" else (Char.ofNat n).toString
  if c.toNat < 0x80 then low c.toNat else "M-" ++ low (c.toNat - 0x80)

/-- A line, without its end, as it is shown. -/
def Marking.body (k : Marking) (ended : Bool) (line : List Char) : String :=
  let shown (c : Char) : String :=
    if c = '\t' then (if k.tabs then "^I" else "\t")
    else if k.hidden then markedChar c else c.toString
  if k.ends && !k.hidden && ended && line.getLast? = some '\r' then
    String.join (line.dropLast.map shown) ++ "^M"
  else String.join (line.map shown)

/-- What a text is printed after: how many lines have numbers already, how many empty lines stand
in front of it, and whether it goes on with a line. -/
structure Printed where
  numbered : Nat := 0
  empty : Nat := 0
  inLine : Bool := false

/-- What is printed for some lines, each with its end, and what stands in front then. -/
def Marking.print (k : Marking) : Printed → List String → String × Printed
  | s, [] => ("", s)
  | s, line :: lines =>
    let ended := line.endsWith "\n"
    let body := if ended then line.toList.dropLast else line.toList
    let isEmpty := body.isEmpty && !s.inLine
    let empty := if isEmpty then s.empty + 1 else 0
    if k.squeezes && isEmpty && 0 < s.empty then k.print { s with empty } lines
    else
      let counts := k.numbers && !s.inLine && !(k.skipsEmpty && isEmpty)
      let numbered := if counts then s.numbered + 1 else s.numbered
      let number := if counts then padLeft 6 (toString numbered) ++ "\t" else ""
      let (rest, after) := k.print { numbered, empty, inLine := !ended } lines
      (number ++ k.body ended body ++
        (if ended then (if k.ends then "$\n" else "\n") else "") ++ rest, after)

/-- Whether the output would become longer by what is read from a file. -/
def feedsItself (path : String) : Task Bool := do
  let desk ← Act.read
  let size (loc : Location) : Nat := match desk.machine.tree.get? loc with
    | some (.file contents _) => contents.length
    | _ => 0
  let input ← if path = "-" then channelOf 0
    else pure ((((← files).stat ⟨Raw.toText path⟩).toOption).map fun found =>
      ({ target := .file found.1 } : Channel))
  match input, ← channelOf 1 with
  | some source, some sink =>
    match source.target, sink.target with
    | .file a, .file b =>
      pure ((desk.machine.tree.namesAt a).contains b &&
        source.offset < if sink.atEnd then size b else sink.offset)
    | _, _ => pure false
  | _, _ => pure false

/-- Print files after others. -/
def catFrom (k : Option Marking) : Printed → List String → Task Unit
  | _, [] => pure ()
  | s, path :: paths => do
    let circular ← feedsItself path
    match ← textOf path with
    | .ok text => do
      if circular then
        warn (quotedIfOdd path ++ ": input file is output file")
        catFrom k s paths
      else
        match k with
        | none => do
          say text
          catFrom k s paths
        | some marking => do
          let (out, s) := marking.print s (fullLinesOf text)
          say out
          catFrom k s paths
    | .error e => do
      warn (plainMessage path e)
      catFrom k s paths

/-- Print files. -/
def cat : Tool := .ofTask fun args => do
  let g ← given catChoices args
  if (← channelOf 1).isNone then die 1 "standard output: Bad file descriptor"
  catFrom (if g.options.all fun o => o.1 == 'u' then none else some (.ofGiven g)) {}
    (orInput g.operands)
  if (← channelOf 0).isNone && (orInput g.operands).contains "-" then
    die 1 "closing standard input: Bad file descriptor"

/-- What is done about output that does not get through. -/
def outputModes : List (List String × Nat) :=
  [(["warn"], 0), (["warn-nopipe"], 1), (["exit"], 2), (["exit-nopipe"], 3)]

/-- The options of `tee`. -/
def teeChoices : Choices where
  letters := "aip"
  words := [("append", 'a'), ("ignore-interrupts", 'i'), ("output-error::", 'O')]

/-- Copy the input to files and to the output. -/
def tee : Tool := .ofTask fun args => do
  let g ← given teeChoices args
  match (g.value? 'O').filter (!·.isEmpty) with
  | some word =>
    let _ ← wordOf 1 "--output-error" outputModes word
  | none => pure ()
  let how := if g.has 'a' then Opening.append else .write
  let channels ← g.operands.filterMapM fun path => do
    match ← onMachine fun p => openPath p path how with
    | .ok channel => pure (some channel)
    | .error e => do
      warn (plainMessage path e)
      pure none
  let text ← match ← textOf "-" with
    | .ok text => pure text
    | .error e => do
      warn ("read error: " ++ reasonOf e)
      pure ""
  if !text.isEmpty && (← channelOf 1).isNone then
    warn "'standard output': Bad file descriptor"
  else say text
  channels.forM fun channel => do
    let _ ← onMachine fun p => writeTo (p.setChannel 10 (some channel)) 10 (Raw.toBytes text)

/-! ## Turning texts round -/

/-- The places at which separators were found in a text: start and end of each, the last one
first. Each of them ends where the one behind it starts, or in front of it. -/
def separatorsFrom (found : Array Char → Nat → Option Nat) (cs : Array Char) :
    Nat → Nat → List (Nat × Nat)
  | 0, _ => []
  | start + 1, stop =>
    match (found (cs.extract 0 stop) start) with
    | some finish => (start, finish) :: separatorsFrom found cs start start
    | none => separatorsFrom found cs start stop

/-- The end of a text that starts at a place, if it stands there. -/
def literalAt (text : List Char) (cs : Array Char) (start : Nat) : Option Nat :=
  if pieceOf cs start (start + text.length) == text then some (start + text.length) else none

/-- The pieces of a text, the last one first. Separators belong to the pieces in front of them, or
behind them. -/
def turnedPieces (before : Bool) (cs : Array Char) (separators : List (Nat × Nat)) : String :=
  let cuts := separators.map fun s => if before then s.1 else s.2
  let bounds := cs.size :: cuts ++ [0]
  String.join ((bounds.zip (bounds.drop 1)).map fun (stop, start) =>
    String.ofList (pieceOf cs start stop))

/-- The options of `tac`. -/
def tacChoices : Choices where
  letters := "brs:"
  words := [("before", 'b'), ("regex", 'r'), ("separator", 's')]

/-- Print files with the last piece first. -/
def tac : Tool := .ofTask fun args => do
  let g ← given tacChoices args
  let separator := (g.value? 's').getD "\n"
  let literal := if separator.isEmpty then [Char.ofNat 0] else separator.toList
  let found ← if !g.has 'r' then pure (literalAt literal)
    else if separator.isEmpty then die 1 "separator cannot be empty"
    else match Regex.ofChars { extended := false, byLines := some '\n' } separator.toList with
      | .ok r => pure fun cs start => (Regex.matchAt r cs start).map Match.stop
      | .error e => die 1 e.message
  let message (path : String) (e : IoError) : String :=
    if e = .os .isDirectory then quotedIfOdd path ++ ": read error: " ++ reasonOf e
    else "failed to open " ++ quoted path ++ " for reading: " ++ reasonOf e
  forTexts message (fun _ text => do
    let cs := text.toList.toArray
    say (turnedPieces (g.has 'b') cs (separatorsFrom found cs cs.size cs.size)))
    (orInput g.operands)

/-- The options of `rev`. -/
def revChoices : Choices where
  letters := "0hV"
  words := [("zero", '0')]

/-- Print lines from their ends to their starts. -/
def rev : Tool := .ofTask fun args => do
  let g ← given revChoices args
  let message (path : String) (e : IoError) : String :=
    "cannot open " ++ path ++ ": " ++ reasonOf e
  let mark := if g.has '0' then Char.ofNat 0 else '\n'
  let turned (text : String) : String :=
    mark.toString.intercalate ((text.splitOn mark.toString).map fun line =>
      String.ofList line.toList.reverse)
  forTexts message (fun _ text => say (turned text)) (orInput g.operands)

end AslBuild.Tools
