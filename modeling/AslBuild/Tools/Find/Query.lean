import AslBuild.Host.Channel
import AslBuild.Shell.Pattern
import AslBuild.Text.Regex
import AslBuild.Tools.Amount
import AslBuild.Tools.Find.Template
set_option autoImplicit false

/-!
# Conditions on files

The arguments spell a condition, parts of which do something.

## Main definitions

* `AslBuild.Tools.Find.Query` — a condition.
* `AslBuild.Tools.Find.Manner` — what holds for the whole search.
* `AslBuild.Tools.Find.primary` — the test or the action of a word.
* `AslBuild.Tools.Find.condition` — a condition with signs and brackets.
* `AslBuild.Tools.Find.queryOf` — the condition that arguments spell.
-/

namespace AslBuild.Tools.Find

open FileSystem Host Text

/-- How two numbers are compared. -/
inductive Comparison
  /-- The one is the other. -/
  | equal
  /-- It is larger. -/
  | more
  /-- It is smaller. -/
  | less
deriving DecidableEq

/-- A condition, parts of which do something. What is printed goes to a channel, or to the output. -/
inductive Query
  /-- It holds, or not. -/
  | const (b : Bool)
  /-- Both hold; the second part is looked at only if the first one holds. -/
  | both (a b : Query)
  /-- One holds; the second part is looked at only if the first one does not hold. -/
  | either (a b : Query)
  /-- The second one holds. -/
  | second (a b : Query)
  /-- It does not hold. -/
  | not (a : Query)
  /-- The name of the file fits a pattern, in either case if that is said. -/
  | name (pattern : String) (ignoresCase : Bool)
  /-- The path of the file fits a pattern. -/
  | path (pattern : String) (ignoresCase : Bool)
  /-- The target of the link fits a pattern. -/
  | target (pattern : String) (ignoresCase : Bool)
  /-- The path of the file fits an expression. -/
  | regex (r : Regex)
  /-- The file is of one of some kinds, itself or as what its link leads to. -/
  | kind (letters : List Char) (behind : Bool)
  /-- There is nothing in the file. -/
  | isEmpty
  /-- The size of the file, in units of so many bytes. -/
  | size (c : Comparison) (count unit : Nat)
  /-- The mode of the file: just so, all of these bits, or any of them. -/
  | mode (sign : Option Char) (bits : Nat)
  /-- The number of its names. -/
  | links (c : Comparison) (count : Nat)
  /-- Its own number. -/
  | number (c : Comparison) (n : Nat)
  /-- The number of its owner. -/
  | owner (c : Comparison) (n : Nat)
  /-- How long ago it was changed: more than so many units of time, fewer, or just so many. -/
  | age (c : Comparison) (count : Decimal) (unit : Int)
  /-- It was changed later than at some time. -/
  | newer (time : Int)
  /-- The file may be read, written or executed. -/
  | allowed (operator : String)
  /-- The file is the one at a location. -/
  | same (place : Location)
  /-- Print the path, with an end. -/
  | print (channel : Option Nat) (finish : String)
  /-- Print a template. -/
  | template (channel : Option Nat) (pieces : List Piece)
  /-- List the file. -/
  | list (channel : Option Nat)
  /-- Run a command for the file, in its directory if that is said, or only if someone agrees. -/
  | run (words : List String) (inside asks : Bool)
  /-- Run a command for many files together, in their directory if that is said. -/
  | collect (number : Nat) (words : List String) (inside : Bool)
  /-- Remove the file. -/
  | delete
  /-- Do not look below the directory. -/
  | prune
  /-- End. -/
  | quit

/-- What holds for the whole search. -/
structure Manner where
  /-- How deep the files are that are looked at, at least. -/
  least : Nat := 0
  /-- How deep they are at most. -/
  most : Option Nat := none
  /-- Whether a directory comes after what is in it. -/
  depthFirst : Bool := false
  /-- Whether links are followed. -/
  follow : Bool := false
  /-- Whether links that are given are followed. -/
  followGiven : Bool := false
  /-- Whether times are counted from the end of the day on. -/
  fromDayEnd : Bool := false

/-- What is left of the arguments, and what was found out. -/
structure Reading where
  /-- What is left. -/
  rest : List String
  /-- What holds for the whole search. -/
  manner : Manner
  /-- Whether something is done with the files. -/
  acts : Bool := false
  /-- Whether files are removed. -/
  deletes : Bool := false
  /-- Whether directories are left out. -/
  prunes : Bool := false
  /-- Whether the order of directories is asked for. -/
  depthAsked : Bool := false
  /-- How many commands there are for many files together. -/
  collections : Nat := 0
  /-- How expressions are written. -/
  style : Regex.Spelling := { extended := false, loose := true }
  /-- The word that was read last. -/
  last : String := ""

/-- A step of reading. -/
abbrev Parse (α : Type) : Type := StateT Reading Task α

/-- Complain about the arguments, and end. -/
def Parse.fail {α : Type} (message : String) : Parse α := StateT.lift (die 1 message)

/-! ## Arguments of tests -/

/-- The argument of a test, if there is one. -/
def argument? : Parse (Option String) := do
  let r ← get
  match r.rest with
  | a :: rest => do
    set { r with rest, last := a }
    pure (some a)
  | [] => pure none

/-- The argument of a test. -/
def argument (test : String) : Parse String := do
  match ← argument? with
  | some a => pure a
  | none => Parse.fail ("missing argument to \x60" ++ test ++ "'")

/-- A comparison, and what follows its sign. -/
def signOf (text : String) : Comparison × String :=
  match text.toList with
  | '+' :: cs => (.more, String.ofList cs)
  | '-' :: cs => (.less, String.ofList cs)
  | _ => (.equal, text)

/-- A comparison with a number. -/
def comparisonOf (text : String) : Option (Comparison × Nat) :=
  let (c, text) := signOf text
  (digits? text).map (c, ·)

/-- The comparison with a number that a test is given. -/
def comparison (test : String) : Parse (Comparison × Nat) := do
  let a := (← argument?).getD test
  match comparisonOf a with
  | some c => pure c
  | none => Parse.fail ("invalid argument \x60" ++ a ++ "' to \x60" ++ test ++ "'")

/-- The number of bytes in a unit. -/
def units : List (Char × Nat) :=
  [('b', 512), ('c', 1), ('w', 2), ('k', 1024), ('M', Nat.pow 1024 2), ('G', Nat.pow 1024 3)]

/-- A test of the size of a file. -/
def sizeTest (test : String) : Parse Query := do
  let a ← argument test
  match a.toList.getLast? with
  | none => Parse.fail "invalid null argument to -size"
  | some c =>
    let unit ← if c.isDigit then pure 512
      else match units.lookup c with
        | some unit => pure unit
        | none => Parse.fail ("invalid -size type \x60" ++ c.toString ++ "'")
    let text := if c.isDigit then a else String.ofList a.toList.dropLast
    match comparisonOf text with
    | some (sign, n) => pure (.size sign n unit)
    | none => Parse.fail ("Invalid argument \x60" ++ a ++ "' to -size")

/-- A test of how long ago a file was changed. -/
def ageTest (test : String) (unit : Int) : Parse Query := do
  let a ← argument test
  let (sign, text) := signOf a
  match Decimal.read text.toList with
  | some (d, []) => pure (.age sign d unit)
  | _ => Parse.fail ("invalid argument \x60" ++ a ++ "' to \x60" ++ test ++ "'")

/-- The letters of kinds of files between commas. -/
def kindLetters (test : String) : List Char → List Char → Parse (List Char)
  | seen, c :: cs => do
    if !"bcdpflsD".toList.contains c then
      Parse.fail ("Unknown argument to " ++ test ++ ": " ++ c.toString)
    if seen.contains c then
      Parse.fail ("Duplicate file type '" ++ c.toString ++ "' in the argument list to " ++ test ++ ".")
    match cs with
    | [] => pure (c :: seen)
    | [','] =>
      Parse.fail ("Last file type in list argument to " ++ test ++
        " is missing, i.e., list is ending on: ','")
    | ',' :: more => kindLetters test (c :: seen) more
    | _ => Parse.fail ("Must separate multiple arguments to " ++ test ++ " using: ','")
  | _, [] => Parse.fail ("Arguments to " ++ test ++ " should contain at least one letter")

/-- What lies at a path that is an argument. -/
def reference (path : String) : Parse (Location × Entry) := do
  let d ← StateT.lift files
  let follows := (← get).manner.follow || (← get).manner.followGiven
  match if follows then d.stat (pathOf path) else d.lstat (pathOf path) with
  | .ok found => pure found
  | .error e => Parse.fail (quoted path ++ ": " ++ reasonOf e)

/-- The channel of a file that is written to. -/
def channelTo (path : String) : Parse Nat := do
  match ← StateT.lift (onMachine fun p => openPath p path .write) with
  | .ok channel => pure channel
  | .error e => Parse.fail (quoted path ++ ": " ++ reasonOf e)

/-- The parts of a template that is an argument. -/
def template (test : String) : Parse (List Piece) := do
  match piecesOf (← argument test) with
  | .error message => Parse.fail message
  | .ok ps => do
    StateT.lift (ps.warnings.forM remark)
    pure ps.parts

/-- The time that an argument names. -/
def timeOf (text : String) : Parse Int := do
  match Moment.read? (← StateT.lift files).tree.clock text with
  | some t => pure t
  | none => Parse.fail ("I cannot figure out how to interpret " ++ quoted text ++
      " as a date or time")

/-! ## Commands -/

/-- The word that files take the place of. -/
def fileWord : String := "\x7b\x7d"

/-- The words of a command up to its end, and whether it is meant for many files together. At most so
many are read. -/
def commandWords (test : String) : Nat → List String → Parse (List String × Bool)
  | 0, _ => Parse.fail ("missing argument to \x60" ++ test ++ "'")
  | n + 1, words => do
    let r ← get
    match r.rest with
    | ";" :: rest => do
      set { r with rest, last := ";" }
      if words.isEmpty then Parse.fail ("invalid argument \x60;' to \x60" ++ test ++ "'")
      pure (words.reverse, false)
    | w :: rest => do
      set { r with rest, last := w }
      if w = "+" ∧ words.head?.any fun before => (before.splitOn fileWord).length != 1 then
        pure (words.reverse, true)
      else commandWords test n (w :: words)
    | [] => Parse.fail ("missing argument to \x60" ++ test ++ "'")

/-- An action that runs a command. -/
def commandAction (test : String) : Parse Query := do
  let (words, together) ← commandWords test ((← get).rest.length + 1) []
  let inside := test == "-execdir" || test == "-okdir"
  let asks := test == "-ok" || test == "-okdir"
  if inside then
    let dirs := (((← StateT.lift Act.read).process.value? "PATH").getD "/bin:/usr/bin").splitOn ":"
    match dirs.find? fun dir => !dir.startsWith "/" with
    | some dir =>
      if dir.isEmpty || dir == "." then
        Parse.fail ("The current directory is included in the PATH environment variable, which is " ++
          "insecure in combination with the " ++ test ++ " action of find.  Please remove the " ++
          "current directory from your $PATH (that is, remove \".\", doubled colons, or leading or " ++
          "trailing colons)")
      else
        Parse.fail ("The relative path " ++ quoted dir ++ " is included in the PATH environment " ++
          "variable, which is insecure in combination with the " ++ test ++
          " action of find.  Please remove that entry from $PATH")
    | none => pure ()
  if together then
    if asks then Parse.fail ("missing argument to \x60" ++ test ++ "'")
    let places := words.filter fun w => (w.splitOn fileWord).length != 1
    if 1 < places.length then
      Parse.fail ("Only one instance of \x7b\x7d is supported with " ++ test ++ " ... +")
    match places.find? (· != fileWord) with
    | some w =>
      Parse.fail ("In '" ++ test ++ " ... \x7b\x7d +' the '\x7b\x7d' must appear by itself, but " ++
        "you specified '" ++ w ++ "'")
    | none => pure ()
    let words := words.dropLast
    let number := (← get).collections
    modify fun r => { r with collections := number + 1 }
    pure (.collect number words inside)
  else pure (.run words inside asks)

/-! ## Tests and actions -/

/-- Something is done with the files. -/
def acting (q : Query) : Parse Query := do
  modify fun r => { r with acts := true }
  pure q

/-- A depth that an option is given. -/
def depth (test : String) : Parse Nat := do
  let a ← argument test
  match digits? a with
  | some n => pure n
  | none =>
    Parse.fail ("Expected a positive decimal integer argument to " ++ test ++ ", but got " ++
      quoted a)

/-- Change what holds for the whole search. -/
def changing (change : Manner → Manner) : Parse Query := do
  modify fun r => { r with manner := change r.manner }
  pure (.const true)

/-- How expressions are written that have names. -/
def regexStyles : List (String × Regex.Spelling) :=
  let basic : Regex.Spelling := { extended := false }
  let extended : Regex.Spelling := { extended := true }
  let loose : Regex.Spelling := { extended := false, loose := true }
  [("findutils-default", loose), ("ed", basic), ("emacs", loose), ("gnu-awk", extended),
    ("grep", basic), ("posix-awk", extended), ("awk", extended), ("posix-basic", basic),
    ("posix-egrep", extended), ("egrep", extended),
    ("posix-extended", { extended := true, strict := true }), ("posix-minimal-basic", basic),
    ("sed", basic)]

/-- The owner that an argument names. -/
def ownerOf (what : String) (text : String) : Parse Query := do
  if text = userName then pure (.owner .equal userNumber)
  else if text = "root" then pure (.owner .equal 0)
  else match digits? text with
    | some n => pure (.owner .equal n)
    | none => Parse.fail (quoted text ++ " is not the name of " ++ what)

/-- A test whether a file was changed later than another one, or than at some time. -/
def newerTest (test : String) : Parse Query := do
  match (test.drop 6).toString.toList with
  | [x, y] =>
    if !"aBcm".toList.contains x || !"aBcmt".toList.contains y then
      Parse.fail ("invalid predicate \x60" ++ test ++ "'")
    else
      let a ← argument test
      if y = 't' then do pure (.newer (← timeOf a))
      else
        let place := (← reference a).1
        pure (.newer ((← StateT.lift files).tree.changed place))
  | _ => Parse.fail ("unknown predicate \x60" ++ test ++ "'")

/-- A test of a mode. -/
def modeTest (test : String) : Parse Query := do
  let a ← argument test
  let sign := a.toList.head?.filter fun c => c == '-' || c == '/'
  let text := if sign.isSome then (a.drop 1).toString else a
  match Permission.read? 0 text with
  | some change => pure (.mode sign (change false 0))
  | none => Parse.fail ("invalid mode " ++ quoted a)

/-- A test of a path by an expression. -/
def regexTest (test : String) : Parse Query := do
  let pattern ← argument test
  let style := { (← get).style with ignoresCase := test == "-iregex" }
  match Regex.ofChars style pattern.toList with
  | .ok r => pure (.regex r)
  | .error defect =>
    Parse.fail ("failed to compile regular expression " ++ quoted pattern ++ ": " ++
      (if defect = .openSet then Regex.Defect.badPattern.message else defect.message))

/-- What the word behind a path is taken for if it is none of a condition. -/
def misplaced (word last : String) : Parse Query := do
  StateT.lift (remark ("paths must precede expression: \x60" ++ word ++ "'"))
  let isThere := (← StateT.lift (entryHere word)).toOption.isSome
  if isThere && ["-name", "-iname", "-path", "-ipath", "-wholename", "-iwholename", "-lname",
      "-ilname", "-regex", "-iregex"].contains last then
    StateT.lift (remark ("possible unquoted pattern after predicate \x60" ++ last ++ "'?"))
  StateT.lift (quit 1)

/-- The test or the action of a word, `last` being the one in front of it. -/
def primary (last word : String) : Parse Query := do
  match word with
  | "-true" => pure (.const true)
  | "-false" => pure (.const false)
  | "-name" => do pure (.name (← argument word) false)
  | "-iname" => do pure (.name (← argument word) true)
  | "-path" | "-wholename" => do pure (.path (← argument word) false)
  | "-ipath" | "-iwholename" => do pure (.path (← argument word) true)
  | "-lname" => do pure (.target (← argument word) false)
  | "-ilname" => do pure (.target (← argument word) true)
  | "-regex" | "-iregex" => regexTest word
  | "-type" => do pure (.kind (← kindLetters word [] (← argument word).toList) false)
  | "-xtype" => do pure (.kind (← kindLetters word [] (← argument word).toList) true)
  | "-empty" => pure .isEmpty
  | "-size" => sizeTest word
  | "-perm" => modeTest word
  | "-links" => do
    let (c, n) ← comparison word
    pure (.links c n)
  | "-inum" => do
    let (c, n) ← comparison word
    pure (.number c n)
  | "-uid" | "-gid" => do
    let (c, n) ← comparison word
    pure (.owner c n)
  | "-user" => do ownerOf "a known user" (← argument word)
  | "-group" => do ownerOf "an existing group" (← argument word)
  | "-nouser" | "-nogroup" => pure (.const false)
  | "-mtime" | "-atime" | "-ctime" => ageTest word 86400000
  | "-mmin" | "-amin" | "-cmin" => ageTest word 60000
  | "-newer" | "-anewer" | "-cnewer" => do
    let place := (← reference (← argument word)).1
    pure (.newer ((← StateT.lift files).tree.changed place))
  | "-readable" => pure (.allowed "-r")
  | "-writable" => pure (.allowed "-w")
  | "-executable" => pure (.allowed "-x")
  | "-samefile" => do pure (.same (← reference (← argument word)).1)
  | "-fstype" => do
    let _ ← argument word
    pure (.const false)
  | "-used" => do
    let a ← argument word
    match comparisonOf a with
    | some (c, n) => pure (.const (c == .less || (c == .equal && n == 0)))
    | none => Parse.fail ("Invalid argument " ++ a ++ " to -used")
  | "-context" => Parse.fail "invalid predicate -context: SELinux is not enabled."
  | "-print" => acting (.print none "\n")
  | "-print0" => acting (.print none "\x00")
  | "-fprint" => do
    let channel ← channelTo (← argument word)
    acting (.print (some channel) "\n")
  | "-fprint0" => do
    let channel ← channelTo (← argument word)
    acting (.print (some channel) "\x00")
  | "-printf" => do
    let pieces ← template word
    acting (.template none pieces)
  | "-fprintf" => do
    let channel ← channelTo (← argument word)
    let pieces ← template word
    acting (.template (some channel) pieces)
  | "-ls" => acting (.list none)
  | "-fls" => do
    let channel ← channelTo (← argument word)
    acting (.list (some channel))
  | "-exec" | "-execdir" | "-ok" | "-okdir" => do acting (← commandAction word)
  | "-delete" => do
    modify fun r => { r with deletes := true, manner := { r.manner with depthFirst := true } }
    acting .delete
  | "-prune" => do
    modify fun r => { r with prunes := true }
    pure .prune
  | "-quit" => pure .quit
  | "-maxdepth" => do
    let n ← depth word
    changing fun m => { m with most := some n }
  | "-mindepth" => do
    let n ← depth word
    changing fun m => { m with least := n }
  | "-depth" | "-d" => do
    modify fun r => { r with depthAsked := true }
    changing fun m => { m with depthFirst := true }
  | "-follow" => changing fun m => { m with follow := true }
  | "-daystart" => changing fun m => { m with fromDayEnd := true }
  | "-mount" | "-xdev" | "-noleaf" | "-warn" | "-nowarn" | "-ignore_readdir_race" |
    "-noignore_readdir_race" => pure (.const true)
  | "-regextype" => do
    let a ← argument word
    match regexStyles.lookup a with
    | some style => do
      modify fun r => { r with style }
      pure (.const true)
    | none =>
      Parse.fail ("Unknown regular expression type " ++ quoted a ++ "; valid types are " ++
        ", ".intercalate (regexStyles.map fun s => quoted s.1) ++ ".")
  | word =>
    if word.startsWith "-newer" then newerTest word
    else if word.startsWith "-" then Parse.fail ("unknown predicate \x60" ++ word ++ "'")
    else misplaced word last

/-! ## Signs between conditions -/

/-- The next word, if it is one of some. It is read then. -/
def oneOf (words : List String) : Parse Bool := do
  match (← get).rest with
  | a :: rest =>
    if words.contains a then do
      modify fun r => { r with rest, last := a }
      pure true
    else pure false
  | [] => pure false

/-- A sign between conditions that has nothing in front of it. -/
def binarySigns : List String := ["-o", "-or", "-a", "-and", ","]

/-- What is said of a bracket that is not closed. -/
def unclosed : String :=
  "invalid expression; I was expecting to find a ')' somewhere but did not see one."

/-- What is said of a bracket behind which there is nothing. -/
def nothingInside : String :=
  "invalid expression; expected to find a ')' but didn't see one. Perhaps you need an extra " ++
    "predicate after '('"

/-- A condition without signs between conditions, behind a word. At most so many signs are read in
front of it. -/
def factor (inner : Parse Query) : Nat → String → Parse Query
  | 0, _ => pure (.const true)
  | n + 1, last => do
    match (← get).rest with
    | [] =>
      Parse.fail ("expected an expression after " ++ quoted (← get).last)
    | word :: rest => do
      modify fun r => { r with rest, last := word }
      if word = "!" ∨ word = "-not" then do pure (.not (← factor inner n word))
      else if word = "(" then do
        if rest.isEmpty then Parse.fail nothingInside
        if rest.head? = some ")" then
          Parse.fail "invalid expression; empty parentheses are not allowed."
        let q ← inner
        let closed ← oneOf [")"]
        if closed then pure q else Parse.fail unclosed
      else if binarySigns.contains word then
        Parse.fail ("invalid expression; you have used a binary operator '" ++ word ++
          "' with nothing before it.")
      else primary last word

/-- Conditions that have to hold all, behind a word. At most so many are read. -/
def conjunction (single : String → Parse Query) : Nat → String → Query → Parse Query
  | 0, _, q => pure q
  | n + 1, last, q => do
    let _ ← oneOf ["-a", "-and"]
    match (← get).rest with
    | [] =>
      if ["-a", "-and"].contains (← get).last then
        Parse.fail ("expected an expression after " ++ quoted (← get).last)
      else pure q
    | word :: _ =>
      if word = ")" ∨ ["-o", "-or", ","].contains word then pure q
      else do
        let next ← single last
        conjunction single n word (.both q next)

/-- Conditions with a sign between each two. At most so many are read. -/
def chain (signs : List String) (join : Query → Query → Query) (single : Parse Query) :
    Nat → Query → Parse Query
  | 0, q => pure q
  | n + 1, q => do
    if ← oneOf signs then chain signs join single n (join q (← single)) else pure q

/-- A condition with brackets at most so deep. -/
def condition : Nat → Parse Query
  | 0 => pure (.const true)
  | n + 1 => do
    let size := (← get).rest.length + 1
    let single := factor (condition n) size
    let all : Parse Query := do
      let first := (← get).rest.headD ""
      conjunction single size first (← single "")
    let some_ : Parse Query := do chain ["-o", "-or"] .either all size (← all)
    chain [","] .second some_ size (← some_)

/-- The condition that arguments spell, and what holds for the whole search. If nothing is done with
the files, they are printed. -/
def queryOf (manner : Manner) (args : List String) : Task (Query × Manner) := do
  let whole : Parse Query := if args.isEmpty then pure (.const true) else condition (args.length + 1)
  let (q, r) ← whole.run { rest := args, manner }
  if !r.rest.isEmpty then die 1 "you have too many ')'"
  if r.deletes && r.prunes && !r.depthAsked then
    die 1 ("The -delete action automatically turns on -depth, but -prune does nothing when -depth is " ++
      "in effect.  If you want to carry on anyway, just explicitly use the -depth option.")
  pure (if r.acts then q else .both q (.print none "\n"), r.manner)

end AslBuild.Tools.Find
