import AslBuild.Tools.Text
set_option autoImplicit false

/-!
# Parts of files

## Main definitions

* `AslBuild.Tools.Portion` — so many lines or bytes, from one end of a text.
* `AslBuild.Tools.head`, `AslBuild.Tools.tail` — the first or last parts of files.
-/

namespace AslBuild.Tools

open FileSystem Host Text

/-! ## Portions -/

/-- What part of a text is meant: so many lines or bytes, from the start or the end. -/
structure Portion where
  /-- Whether bytes are counted. -/
  bytes : Bool := false
  /-- The number. -/
  count : Nat := 10
  /-- Whether it is counted from the other end. -/
  other : Bool := false
  /-- The character at the end of lines. -/
  mark : Char := '\n'

/-- The pieces of a text that a character ends, each with that character. -/
def markedPieces (mark : Char) (text : String) : List String :=
  let pieces := text.splitOn mark.toString
  (pieces.dropLast.map (· ++ mark.toString)) ++ (pieces.getLast?.filter fun l => !l.isEmpty).toList

/-- The pieces of a text that are counted. -/
def Portion.pieces (p : Portion) (text : String) : List String :=
  if p.bytes then text.toList.map Char.toString else markedPieces p.mark text

/-- The start of a text, or all but its end. -/
def Portion.start (p : Portion) (text : String) : String :=
  let ps := p.pieces text
  String.join (if p.other then ps.take (ps.length - p.count) else ps.take p.count)

/-- The end of a text, or all from a piece on. -/
def Portion.finish (p : Portion) (text : String) : String :=
  let ps := p.pieces text
  String.join (if p.other then ps.drop (p.count - 1) else ps.drop (ps.length - p.count))

/-- The letters that may stand behind the number of a portion. -/
def portionSuffixes : String := "bkKmMGTPEZYRQ0"

/-- The portion that an argument spells, where a sign in front of the number turns it round, or
another one means nothing. -/
def portionOf (bytes : Bool) (sign : Char) (text : String) : Task Portion := do
  let text' := if text.startsWith "-" then (text.drop 1).toString else text
  let count ← amountOf ("invalid number of " ++ if bytes then "bytes" else "lines")
    portionSuffixes 0 text'
  pure { bytes, count, other := text.toList.head? == some sign }

/-- When the names of files are printed. -/
inductive Titles
  | always
  | never
  | ifSeveral
deriving DecidableEq

/-- Print a part of every file, under its name if that is wanted. The part of a file that is printed
is given together with what is left of it. `most` says how much is read at most. -/
def printParts (titles : Titles) (most : Option Nat) (part rest : String → String) :
    Bool → List String → Task Unit
  | _, [] => pure ()
  | first, path :: paths => do
    let title := if titles = .always then (if first then "" else "\n") ++ "==> " ++
      (if path = "-" then "standard input" else path) ++ " <==\n" else ""
    match ← textUpTo most path with
    | .ok text => do
      say (title ++ part text)
      if path = "-" then giveBack (rest text)
      printParts titles most part rest false paths
    | .error e => do
      if e = .os .isDirectory then say title
      warn (openMessage (if path = "-" then "standard input" else path) e)
      printParts titles most part rest (first && e ≠ .os .isDirectory) paths

/-- Whether names are printed, as options ask for it. -/
def titlesOf (g : Given) : Titles :=
  match g.last? ['q', 'v'] with
  | some 'q' => .never
  | some _ => .always
  | none => if 1 < g.operands.length then .always else .ifSeveral

/-! ## First parts -/

/-- The options of `head`. -/
def headChoices : Choices where
  letters := "c:n:qvz0123456789"
  words := [("bytes", 'c'), ("lines", 'n'), ("-presume-input-pipe", 'p'), ("quiet", 'q'),
    ("silent", 'q'), ("verbose", 'v'), ("zero-terminated", 'z')]

/-- The options that a number with letters behind it stands for, all in one. -/
def headShorthand (ds letters : List Char) : Task (List String) := do
  match letters.find? fun c => !"cbkmlqvz".toList.contains c with
  | some c => misuse 1 ("invalid trailing option -- " ++ c.toString)
  | none =>
    let scale := (letters.filter fun c => "cbkm".toList.contains c).getLast?
    let counts := (letters.filter fun c => "cbkml".toList.contains c).getLast?
    let option := if counts.all (· == 'l') then "-n" else "-c"
    let number := String.ofList (ds ++ (scale.filter (· != 'c')).toList)
    pure (option :: number ::
      (letters.filter fun c => "qvz".toList.contains c).map fun c => "-" ++ c.toString)

/-- Print the first part of files. -/
def head : Tool := .ofTask fun args => do
  let args ← match args with
    | a :: rest =>
      match a.toList with
      | '-' :: c :: cs =>
        if c.isDigit then
          let ds := (c :: cs).takeWhile Char.isDigit
          pure ((← headShorthand ds ((c :: cs).drop ds.length)) ++ rest)
        else pure args
      | _ => pure args
    | [] => pure []
  let g ← given headChoices args
  match g.options.find? fun o => o.1.isDigit with
  | some (c, _) => misuse 1 ("invalid trailing option -- " ++ c.toString)
  | none => pure ()
  let asked ← (g.options.filter fun o => o.1 == 'c' || o.1 == 'n').mapM fun o =>
    portionOf (o.1 == 'c') '-' o.2
  let p := { asked.getLast?.getD {} with mark := if g.has 'z' then Char.ofNat 0 else '\n' }
  printParts (titlesOf g) (if p.bytes && !p.other then some p.count else none) p.start (fun text => (text.drop (p.start text).length).toString) true
    (orInput g.operands)

/-! ## Last parts -/

/-- The options of `tail`. -/
def tailChoices : Choices where
  letters := "c:n:fFqs:vz0123456789"
  words := [("bytes", 'c'), ("follow::", 'f'), ("lines", 'n'), ("max-unchanged-stats:", 'm'),
    ("-disable-inotify", 'd'), ("pid:", 'i'), ("-presume-input-pipe", 'p'), ("quiet", 'q'),
    ("retry", 'r'), ("silent", 'q'), ("sleep-interval", 's'), ("verbose", 'v'),
    ("zero-terminated", 'z')]

/-- The portion that a sign, a number and letters stand for. -/
def tailShorthand? (a : String) : Option Portion :=
  match a.toList with
  | [] => none
  | sign :: cs =>
    let ds := cs.takeWhile Char.isDigit
    let rest := cs.drop ds.length
    let unit := rest.head?.filter fun c => "bcl".toList.contains c
    let rest := rest.drop (if unit.isSome then 1 else 0)
    let plain := sign == '-' && (cs.isEmpty || cs == ['c'])
    if (sign != '-' && sign != '+') || plain || !(rest.isEmpty || rest == ['f']) then none
    else
      let number := if ds.isEmpty then 10 else ((String.ofList ds).toNat?).getD 0
      some
        { bytes := unit.any (· != 'l')
          count := if unit = some 'b' then number * 512 else number
          other := sign == '+' }

/-- Print the last part of files. -/
def tail : Tool := .ofTask fun args => do
  let short := match args with
    | [a] => tailShorthand? a
    | [a, b] => if b.startsWith "-" && b != "-" && b != "--" then none else tailShorthand? a
    | [a, "--", _] => tailShorthand? a
    | _ => none
  let g ← given tailChoices (if short.isSome then args.drop 1 else args)
  match g.options.find? fun o => o.1.isDigit with
  | some (c, _) => die 1 ("option used in invalid context -- " ++ c.toString)
  | none => pure ()
  let asked ← (g.options.filter fun o => o.1 == 'c' || o.1 == 'n').mapM fun o =>
    portionOf (o.1 == 'c') '+' o.2
  let p := (asked.getLast?.or short).getD {}
  let p := { p with
    other := p.other || asked.any Portion.other
    mark := if g.has 'z' then Char.ofNat 0 else '\n' }
  printParts (titlesOf g) none p.finish (fun _ => "") true (orInput g.operands)

end AslBuild.Tools
