import AslBuild.Text.Escape
import AslBuild.Tools.Sed.Script
set_option autoImplicit false

/-!
# Reading editing scripts

## Main definitions

* `AslBuild.Tools.Sed.Mistake` — why a text is no script.
* `AslBuild.Tools.Sed.Draft` — what is read of an instruction, before it is known where others
  stand.
* `AslBuild.Tools.Sed.read` — the instructions that a text spells.
-/

namespace AslBuild.Tools.Sed

open Text

/-- Why a text is no script, and after how many characters that is known. -/
structure Mistake where
  /-- The number of characters that were read; nothing if it is not about a place. -/
  place : Option Nat
  /-- Whether it is about the part of the script as a whole that the place is in. -/
  whole : Bool := false
  /-- What is wrong. -/
  message : String

/-- What is left of a script, and how many characters were read of it. -/
structure Reading where
  /-- What is left. -/
  rest : List Char
  /-- How many characters were read. -/
  count : Nat := 0
  /-- Whether signs have their meaning without a backslash. -/
  extended : Bool
  /-- Whether nothing is allowed that reaches beyond the lines. -/
  confined : Bool := false
  /-- The character at the end of lines. -/
  lineMark : Char := '\n'

/-- A step of reading. -/
abbrev Parse (α : Type) : Type := Act Mistake Reading α

/-! ## Characters -/

/-- Say that there is something wrong here. -/
def wrong {α : Type} (message : String) : Parse α := do
  Act.fail { place := some (← Act.read).count, message }

/-- The next character. -/
def peek : Parse (Option Char) := do pure (← Act.read).rest.head?

/-- Go past so many characters. -/
def skip (n : Nat) : Parse Unit := Act.update fun r => { r with
  rest := r.rest.drop n, count := r.count + min n r.rest.length }

/-- Read the next character. -/
def nextChar : Parse (Option Char) := do
  let c ← peek
  skip 1
  pure c

/-- Read the characters with a property. -/
def takeWhile (keep : Char → Bool) : Parse (List Char) := do
  let cs := (← Act.read).rest.takeWhile keep
  skip cs.length
  pure cs

/-- Whether a character is a blank within a line. -/
def isGap (c : Char) : Bool := c == ' ' || c == '\t' || c == '\x0b' || c == '\x0c' || c == '\r'

/-- Whether a character is a blank or the end of a line. -/
def isSpace (c : Char) : Bool := isGap c || c == '\n'

/-- Go past blanks within a line. -/
def skipGaps : Parse Unit := do
  let _ ← takeWhile isGap

/-- The number that comes next. -/
def number? : Parse (Option Nat) := do
  let ds ← takeWhile Char.isDigit
  pure (String.ofList ds).toNat?

/-! ## Expressions -/

/-- The characters up to the end of a set between brackets, the opening one of which was read. -/
def setChars : Nat → Bool → List Char → List Char × List Char
  | 0, _, cs => ([], cs)
  | _, _, [] => ([], [])
  | n + 1, started, c :: cs =>
    let go (front : List Char) (rest : List Char) : List Char × List Char :=
      let (more, rest) := setChars n true rest
      (front ++ more, rest)
    match c, cs with
    | ']', _ => if started then ([']'], cs) else go [']'] cs
    | '\\', 'n' :: rest => go ['\n'] rest
    | '[', ':' :: _ | '[', '.' :: _ | '[', '=' :: _ =>
      let inner := cs.takeWhile (· != ']')
      go ('[' :: inner ++ (cs.drop inner.length).take 1) (cs.drop (inner.length + 1))
    | '\n', _ => ([], '\n' :: cs)
    | c, _ => go [c] cs

/-- The characters up to a delimiter, with a backslash in front of it taken away. In an expression,
a set between brackets may hold the delimiter. Nothing if there is none in the line. -/
def delimited (delimiter : Char) (isPattern : Bool) : Nat → Parse (Option (List Char))
  | 0 => pure none
  | n + 1 => do
    let go (front : List Char) : Parse (Option (List Char)) := do
      pure ((← delimited delimiter isPattern n).map (front ++ ·))
    match (← Act.read).rest with
    | [] => pure none
    | '\\' :: c :: _ => do
      skip 2
      if isPattern && c == 'n' then go ['\n']
      else if c = '\n' then go (if isPattern then ['\n'] else ['\\', '\n'])
      else if c = delimiter && (isPattern || c != '&') then go [c]
      else go ['\\', c]
    | c :: cs => do
      if c = delimiter then do
        skip 1
        pure (some [])
      else if c = '\n' then pure none
      else if c = '[' && isPattern then do
        let negated := cs.head? == some '^'
        let inner := if negated then cs.drop 1 else cs
        let (set, rest) := setChars (inner.length + 1) false inner
        skip ((c :: cs).length - rest.length)
        go ('[' :: (if negated then ['^'] else []) ++ set)
      else do
        skip 1
        go [c]

/-- The character that an escape stands for, the backslash of which was read, and what follows. -/
def escape? : List Char → Option (Char × List Char)
  | 'a' :: cs => some ('\x07', cs)
  | 'f' :: cs => some ('\x0c', cs)
  | 'n' :: cs => some ('\n', cs)
  | 'r' :: cs => some ('\r', cs)
  | 't' :: cs => some ('\t', cs)
  | 'v' :: cs => some ('\x0b', cs)
  | 'c' :: c :: cs => some (Char.ofNat (c.toUpper.toNat ^^^ 64), cs)
  | 'd' :: cs => numeric 10 3 cs
  | 'o' :: cs => numeric 8 3 cs
  | 'x' :: cs => numeric 16 2 cs
  | _ => none
where
  /-- The character of a number in a base with at most so many digits. -/
  numeric (base digits : Nat) (cs : List Char) : Option (Char × List Char) :=
    let (n, rest) := Escape.readDigits base digits 0 cs
    if rest.length = cs.length then none else some (Escape.byteChar n, rest)

/-- An expression with its escapes replaced, except those that expressions know themselves. The
character that an escape stands for means what it means in an expression. -/
def withoutEscapes : Nat → List Char → List Char
  | 0, cs => cs
  | _, [] => []
  | n + 1, '\\' :: cs =>
    match escape? cs with
    | some (c, rest) => c :: withoutEscapes n rest
    | none => '\\' :: cs.take 1 ++ withoutEscapes n (cs.drop 1)
  | n + 1, c :: cs => c :: withoutEscapes n cs

/-- The expression that characters spell; nothing if there are none. -/
def patternOf (ignoresCase byLines : Bool) (cs : List Char) : Parse Pattern := do
  if cs.isEmpty then pure none
  else
    let r ← Act.read
    let style : Regex.Spelling :=
      { extended := r.extended, ignoresCase, strict := true
        byLines := if byLines then some r.lineMark else none }
    let cs := withoutEscapes cs.length cs
    match Regex.ofChars style cs with
    | .ok r =>
      if Regex.misplacesClass cs.length cs then
        Act.fail { place := none, message := Regex.misplacedClass }
      else pure (some r)
    | .error defect => wrong defect.message

/-! ## Addresses -/

/-- An expression between delimiters, as an address, the first of which was read. -/
def patternAddress (delimiter : Char) : Parse Address := do
  match ← delimited delimiter true ((← Act.read).rest.length + 1) with
  | none => wrong "unterminated address regex"
  | some cs => do
    let flags ← takeWhile fun c => c == 'I' || c == 'M'
    pure (.holding (← patternOf (flags.contains 'I') (flags.contains 'M') cs))

/-- The address that comes next, if one does. -/
def address? : Parse (Option Address) := do
  match ← peek with
  | some '/' => do
    skip 1
    pure (some (← patternAddress '/'))
  | some '\\' => do
    skip 1
    match ← nextChar with
    | some c => do pure (some (← patternAddress c))
    | none => wrong "unterminated address regex"
  | some '$' => do
    skip 1
    pure (some .last)
  | some c =>
    if c.isDigit then do
      let n := (← number?).getD 0
      skipGaps
      if (← peek) = some '~' then do
        skip 1
        skipGaps
        let step := (← number?).getD 0
        pure (some (if step = 0 then .line n else .every n step))
      else pure (some (.line n))
    else pure none
  | none => pure none

/-- The end of a range. -/
def stop : Parse Stop := do
  match ← peek with
  | some '+' => do
    skip 1
    skipGaps
    pure (.after ((← number?).getD 0))
  | some '~' => do
    skip 1
    skipGaps
    pure (.multiple ((← number?).getD 0))
  | _ =>
    match ← address? with
    | some a => pure (.at_ a)
    | none => do
      skip 1
      wrong "unexpected \x60,'"

/-- Whether a range may start before the first line. -/
def mayStartEarly : Option Stop → Bool
  | some (.at_ (.holding _)) => true
  | _ => false

/-- The lines that the instruction is meant for that comes next. -/
def guard : Parse Guard := do
  if (← peek).any fun c => c == '+' || c == '~' then
    skip 2
    wrong "invalid usage of +N or ~N as first address"
  let first ← address?
  skipGaps
  let stop ← if first.isSome && (← peek) == some ',' then do
      skip 1
      skipGaps
      pure (some (← stop))
    else pure none
  skipGaps
  let isZero := match first with
    | some (.line 0) => true
    | _ => false
  let reads := stop.isNone && (← peek) == some 'r'
  if isZero && !mayStartEarly stop && !reads then
    skip 1
    wrong "invalid usage of line address 0"
  let negated := (← peek) == some '!'
  if negated then
    skip 1
    skipGaps
    if (← peek) == some '!' then
      skip 1
      wrong "multiple \x60!'s"
  pure { first, stop, negated }

/-! ## Instructions -/

/-- What is read of an instruction, before it is known where others stand. -/
inductive Draft
  /-- What it does. -/
  | action (a : Action)
  /-- Instructions that belong together start. -/
  | opening
  /-- They end. -/
  | closing
  /-- The script goes on at a label. -/
  | branch (condition : Condition) (label : String)
  /-- A label. -/
  | label (name : String)

/-- The end of an instruction. -/
def finish : Parse Unit := do
  skipGaps
  match ← peek with
  | none | some '\x7d' | some '#' => pure ()
  | some '\n' | some ';' => skip 1
  | some _ => do
    skip 1
    wrong "extra characters after command"

/-- The characters of a text up to the end of its last line. -/
def textChars : Nat → Parse (List Char)
  | 0 => pure []
  | n + 1 => do
    match (← Act.read).rest with
    | [] => pure []
    | '\n' :: _ => do
      skip 1
      pure []
    | '\\' :: cs => do
      match escape? cs with
      | some (c, rest) => do
        skip (cs.length + 1 - rest.length)
        pure (c :: (← textChars n))
      | none => do
        skip 2
        pure (cs.take 1 ++ (← textChars n))
    | c :: _ => do
      skip 1
      pure (c :: (← textChars n))

/-- The text of an instruction that prints one. -/
def text : Parse String := do
  skipGaps
  match (← Act.read).rest with
  | [] => wrong "expected \\ after \x60a', \x60c' or \x60i'"
  | '\\' :: [] => do
    skip 1
    pure ""
  | '\\' :: c :: _ => do
    skip (if c = '\n' then 2 else 1)
    let first ← if c = '\n' ∨ c = '\\' then pure [] else do
      skip 1
      pure [c]
    let cs ← textChars ((← Act.read).rest.length + 1)
    pure (String.ofList (first ++ cs) ++ "\n")
  | _ => do
    let cs ← textChars ((← Act.read).rest.length + 1)
    pure (String.ofList cs ++ "\n")

/-- Refuse what reaches beyond the lines, if that is not allowed. -/
def reachOut : Parse Unit := do
  if (← Act.read).confined then wrong "e/r/w commands disabled in sandbox mode"

/-- The command that is run, if there is one. -/
def command : Parse (Option String) := do
  reachOut
  skipGaps
  match ← peek with
  | none => pure none
  | some '\n' => do
    skip 1
    pure none
  | some _ => do
    let cs ← textChars ((← Act.read).rest.length + 1)
    pure (some (String.ofList cs))

/-- The name of a file. -/
def fileName : Parse String := do
  reachOut
  skipGaps
  let cs ← takeWhile (· != '\n')
  if cs.isEmpty then wrong "missing filename in r/R/w/W commands"
  skip 1
  pure (String.ofList cs)

/-- The pieces of what is put in the place of a match. -/
def pieces : Nat → List Char → List Piece
  | 0, _ => []
  | _, [] => []
  | n + 1, '&' :: cs => .group 0 :: pieces n cs
  | n + 1, '\\' :: cs =>
    match cs with
    | 'L' :: cs => .casing .lower :: pieces n cs
    | 'U' :: cs => .casing .upper :: pieces n cs
    | 'E' :: cs => .casing .plain :: pieces n cs
    | 'l' :: cs => .nextCasing .lower :: pieces n cs
    | 'u' :: cs => .nextCasing .upper :: pieces n cs
    | c :: rest =>
      if c.isDigit then .group (c.toNat - 48) :: pieces n rest
      else match escape? cs with
        | some (c, rest) => .text [c] :: pieces n rest
        | none => .text [c] :: pieces n rest
    | [] => [.text ['\\']]
  | n + 1, c :: cs => .text [c] :: pieces n cs

/-- The options of a substitution. -/
structure Flags where
  /-- The number of the match that is replaced first. -/
  which : Option Nat := none
  /-- The letters. -/
  letters : List Char := []
  /-- The file that the line is written to. -/
  file : Option String := none

/-- The options of a substitution. At most so many are read. -/
def flags : Nat → Flags → Parse Flags
  | 0, f => pure f
  | n + 1, f => do
    match ← peek with
    | none | some '#' | some '\x7d' => pure f
    | some '\n' | some ';' => do
      skip 1
      pure f
    | some 'w' => do
      skip 1
      pure { f with file := some (← fileName) }
    | some c =>
      if c.isDigit then do
        let k := (← number?).getD 0
        if k = 0 then wrong "number option to \x60s' command may not be zero"
        if f.which.isSome then wrong "multiple number options to \x60s' command"
        flags n { f with which := some k }
      else do
        skip 1
        if isGap c then flags n f
        else if c = 'i' ∨ c = 'I' then flags n { f with letters := 'I' :: f.letters }
        else if c = 'm' ∨ c = 'M' then flags n { f with letters := 'M' :: f.letters }
        else if c = 'e' then do
          reachOut
          flags n { f with letters := 'e' :: f.letters }
        else if c = 'g' ∨ c = 'p' then
          if f.letters.contains c then
            wrong ("multiple \x60" ++ c.toString ++ "' options to \x60s' command")
          flags n { f with letters := c :: f.letters }
        else wrong "unknown option to \x60s'"

/-- The highest number of a part that pieces refer to. -/
def highestGroup (ps : List Piece) : Nat :=
  ps.foldl (fun n p => match p with
    | .group k => max n k
    | _ => n) 0

/-- A substitution, the letter of which was read. -/
def substitution : Parse Substitution := do
  let unfinished : Parse Substitution := wrong "unterminated \x60s' command"
  match ← nextChar with
  | none => unfinished
  | some delimiter => do
    let size := (← Act.read).rest.length + 1
    match ← delimited delimiter true size with
    | none => unfinished
    | some pattern =>
      match ← delimited delimiter false size with
      | none => unfinished
      | some replacement => do
        let f ← flags size {}
        let pattern ← patternOf (f.letters.contains 'I') (f.letters.contains 'M') pattern
        let ps := pieces (replacement.length + 1) replacement
        let groups := (pattern.map Regex.groupCount).getD 9
        if groups < highestGroup ps then
          wrong ("invalid reference \\" ++ toString (highestGroup ps) ++
            " on \x60s' command's RHS")
        pure
          { pattern
            pieces := ps
            which := f.which.getD 1
            everywhere := f.letters.contains 'g'
            runs := f.letters.contains 'e'
            prints := f.letters.contains 'p'
            printsFirst := (f.letters.dropWhile (· != 'e')).contains 'p'
            file := f.file }

/-- The characters of one side of a translation. -/
def sideChars : Nat → List Char → List Char
  | 0, _ => []
  | _, [] => []
  | n + 1, '\\' :: '\\' :: cs => '\\' :: sideChars n cs
  | n + 1, '\\' :: cs =>
    match escape? cs with
    | some (c, rest) => c :: sideChars n rest
    | none => sideChars n cs
  | n + 1, c :: cs => c :: sideChars n cs

/-- A translation, the letter of which was read. -/
def translation : Parse Action := do
  let unfinished : Parse Action := wrong "unterminated \x60y' command"
  match ← nextChar with
  | none => unfinished
  | some delimiter => do
    let size := (← Act.read).rest.length + 1
    match ← delimited delimiter false size with
    | none => unfinished
    | some from_ =>
      match ← delimited delimiter false size with
      | none => unfinished
      | some to_ => do
        let a := sideChars size from_
        let b := sideChars size to_
        if a.length != b.length then
          wrong "strings for \x60y' command are different lengths"
        finish
        pure (.translate (a.zip b))

/-- A label. -/
def label (closes : Bool) : Parse String := do
  skipGaps
  let cs ← takeWhile fun c => !(isSpace c || c == ';' || (closes && c == '\x7d'))
  pure (String.ofList cs)

/-- A number behind the letter of an instruction, and the end of it. -/
def argument : Parse (Option Nat) := do
  skipGaps
  let n ← number?
  finish
  pure n

/-- Whether a version is newer than this one, or none at all. -/
def isNewer (version : List Char) : Bool :=
  let number (cs : List Char) : Nat := (String.ofList (cs.takeWhile Char.isDigit)).toNat?.getD 0
  let minor := (version.dropWhile Char.isDigit).drop 1
  match version with
  | [] => false
  | c :: _ => !c.isDigit || 4 < number version || (number version == 4 && 9 < number minor)

/-- What the instruction of a letter does that was read. -/
def draft (depth : Nat) (bare : Bool) (c : Char) : Parse Draft := do
  let simple (a : Action) : Parse Draft := do
    finish
    pure (.action a)
  match c with
  | '\x7b' => pure .opening
  | '\x7d' => do
    if depth = 0 then wrong "unexpected \x60\x7d'"
    if !bare then wrong "\x7d doesn't want any addresses"
    finish
    pure .closing
  | ':' => do
    if !bare then wrong ": doesn't want any addresses"
    let name ← label false
    if name.isEmpty then wrong "\":\" lacks a label"
    pure (.label name)
  | '#' => do
    if !bare then wrong "comments don't accept any addresses"
    let _ ← takeWhile (· != '\n')
    pure (.action .nothing)
  | '=' => simple .number
  | 'a' => do pure (.action (.append (← text)))
  | 'i' => do pure (.action (.insert (← text)))
  | 'c' => do pure (.action (.change (← text)))
  | 'b' => do pure (.branch .always (← label true))
  | 't' => do pure (.branch .replaced (← label true))
  | 'T' => do pure (.branch .notReplaced (← label true))
  | 'd' => simple .delete
  | 'D' => simple .deleteFirst
  | 'e' => do pure (.action (.run (← command)))
  | 'F' => simple .fileName
  | 'g' => simple (.take false)
  | 'G' => simple (.take true)
  | 'h' => simple (.hold false)
  | 'H' => simple (.hold true)
  | 'l' => do pure (.action (.list (← argument)))
  | 'n' => simple (.next false)
  | 'N' => simple (.next true)
  | 'p' => simple (.print false)
  | 'P' => simple (.print true)
  | 'q' => do pure (.action (.quit ((← argument).getD 0) true))
  | 'Q' => do pure (.action (.quit ((← argument).getD 0) false))
  | 'r' => do pure (.action (.readFile (← fileName)))
  | 'R' => do pure (.action (.readLine (← fileName)))
  | 's' => do pure (.action (.substitute (← substitution)))
  | 'v' => do
    let version ← label true
    if isNewer version.toList then wrong "expected newer version of sed"
    simple .nothing
  | 'w' => do pure (.action (.write (← fileName) false))
  | 'W' => do pure (.action (.write (← fileName) true))
  | 'x' => simple .exchange
  | 'y' => do pure (.action (← translation))
  | 'z' => simple .clear
  | c => wrong ("unknown command: \x60" ++ c.toString ++ "'")

/-- The instructions of a script, at most so many of them. `open_` are the places where groups of them
were opened, the last one first. -/
def drafts : Nat → List Nat → Parse (List (Guard × Draft))
  | 0, _ => pure []
  | n + 1, open_ => do
    let _ ← takeWhile fun c => isSpace c || c == ';'
    if (← peek).isNone then
      match open_ with
      | [] => pure []
      | place :: _ =>
        Act.fail { place := some place, whole := true, message := "unmatched \x60\x7b'" }
    else
      let g ← guard
      match ← nextChar with
      | none => wrong "missing command"
      | some c => do
        let d ← draft open_.length g.first.isNone c
        let here := (← Act.read).count
        let open_ := match d with
          | .opening => here :: open_
          | .closing => open_.tail
          | _ => open_
        pure ((g, d) :: (← drafts n open_))

/-! ## Places -/

/-- The number of the instruction behind the end of a group that starts in front of some. -/
def endOfGroup : Nat → Nat → List (Guard × Draft) → Nat
  | place, _, [] => place
  | place, depth, (_, d) :: rest =>
    match d with
    | .opening => endOfGroup (place + 1) (depth + 1) rest
    | .closing => if depth = 0 then place + 1 else endOfGroup (place + 1) (depth - 1) rest
    | _ => endOfGroup (place + 1) depth rest

/-- The number of the instruction at a label. -/
def placeOf? (name : String) : Nat → List (Guard × Draft) → Option Nat
  | _, [] => none
  | place, (_, d) :: rest =>
    match d with
    | .label other => if other = name then some place else placeOf? name (place + 1) rest
    | _ => placeOf? name (place + 1) rest

/-- The instructions with the places that they refer to. -/
def placed (all : List (Guard × Draft)) : Nat → List (Guard × Draft) →
    Except Mistake (List Instruction)
  | _, [] => .ok []
  | place, (guard, d) :: rest => do
    let action : Action ← match d with
      | .action a => .ok a
      | .opening => .ok (.block (endOfGroup (place + 1) 0 rest))
      | .closing | .label _ => .ok .nothing
      | .branch condition name =>
        if name.isEmpty then .ok (.branch condition all.length)
        else match placeOf? name 0 all with
          | some target => .ok (.branch condition target)
          | none =>
            .error { place := none, message := "can't find label for jump to \x60" ++ name ++ "'" }
    .ok ({ guard, action } :: (← placed all (place + 1) rest))

/-- The instructions that a text spells. `extended` tells whether signs in expressions have their
meaning without a backslash, and `confined` whether nothing is allowed that reaches beyond the
lines. -/
def read (extended confined : Bool) (lineMark : Char) (script : String) :
    Except Mistake (List Instruction) :=
  let start : Reading := { rest := script.toList, extended, confined, lineMark }
  match Act.run (drafts (script.length + 1) []) start with
  | (.error m, _) => .error m
  | (.ok ds, _) => placed ds 0 ds

end AslBuild.Tools.Sed
