import AslBuild.Host.Channel
import AslBuild.Text.Template
import AslBuild.Text.Utf8
set_option autoImplicit false

/-!
# Tests

A test is a list of words that holds or not: questions about texts, numbers and files, and signs
between them.

## Main definitions

* `AslBuild.Shell.Facts` — what questions are about.
* `AslBuild.Shell.fileTest?`, `AslBuild.Shell.comparison?` — tests with one and with two operands.
* `AslBuild.Shell.TestError` — why a test makes no sense.
* `AslBuild.Shell.test` — whether a test holds.
-/

namespace AslBuild.Shell

open FileSystem Host Text
open Template (Dialect)

/-! ## Questions -/

/-- What questions are about. -/
structure Facts where
  /-- The files. -/
  disk : Disk
  /-- What an open file leads to, if a path is that of one. -/
  opened : String → Option Target := fun _ => none
  /-- Whether a variable is set. -/
  isSet : String → Bool := fun _ => false
  /-- Whether an option is set. -/
  isOn : String → Bool := fun _ => false

/-- Whether something is a pipe. -/
def isPipe : Option Target → Bool
  | some .pipe | some (.user _) => true
  | _ => false

/-- What lies at a path, with links followed. -/
def Facts.entry? (f : Facts) (path : String) : Option Entry :=
  match f.opened path with
  | some (.file loc) => f.disk.tree.get? loc
  | some (.device kind) => some (.device kind)
  | some .dir => some (.dir lockedMode)
  | some .nameless => some (.file [] fileMode)
  | some .pipe | some (.user _) => none
  | none => (f.disk.stat ⟨Raw.toText path⟩).toOption.map (·.2)

/-- Whether a question about the file at a path has the answer yes; nothing if it is no such
question. -/
def fileTest? (f : Facts) (operator path : String) : Option Bool :=
  let found := f.entry? path
  let piped := isPipe (f.opened path)
  let named : Option Entry := (f.disk.lstat ⟨Raw.toText path⟩).toOption.map (·.2)
  let mode? : Option Nat := match found with
    | some (.dir mode) | some (.file _ mode) => some mode
    | some (.device _) => some 0o666
    | _ => if piped then some 0o600 else none
  match operator with
  | "-e" | "-O" | "-G" | "-a" => some (found.isSome || piped)
  | "-f" => some (match found with
    | some (.file ..) => true
    | _ => false)
  | "-d" => some (match found with
    | some (.dir _) => true
    | _ => false)
  | "-c" => some (match found with
    | some (.device _) => true
    | _ => false)
  | "-s" => some (match found with
    | some (.file contents _) => !contents.isEmpty
    | some (.dir _) => true
    | _ => false)
  | "-r" => some (mode?.any mayRead)
  | "-w" => some (mode?.any mayWrite)
  | "-x" => some (mode?.any mayEnter)
  | "-u" => some (mode?.any fun m => m.testBit 11)
  | "-g" => some (mode?.any fun m => m.testBit 10)
  | "-k" => some (mode?.any fun m => m.testBit 9)
  | "-h" | "-L" => some (match named with
    | some (.link _) => true
    | _ => false)
  | "-p" => some piped
  | "-b" | "-S" | "-N" => some false
  | _ => none

/-- Whether two paths lead to one entry. -/
def sameEntry (d : Disk) (a b : String) : Bool :=
  match d.stat ⟨Raw.toText a⟩, d.stat ⟨Raw.toText b⟩ with
  | .ok (x, _), .ok (y, _) => (d.tree.namesAt x).contains y
  | _, _ => false

/-- Whether what one path leads to was changed later than what another one leads to, or is there
while that is not. -/
def isNewer (d : Disk) (a b : String) : Bool :=
  match d.stat ⟨Raw.toText a⟩, d.stat ⟨Raw.toText b⟩ with
  | .ok (x, _), .ok (y, _) => d.tree.changed y < d.tree.changed x
  | .ok _, .error _ => true
  | .error _, _ => false

/-- A comparison of numbers. -/
def comparison? (operator : String) : Option (Int → Int → Bool) :=
  match operator with
  | "-eq" => some fun a b => a == b
  | "-ne" => some fun a b => a != b
  | "-lt" => some fun a b => decide (a < b)
  | "-le" => some fun a b => decide (a ≤ b)
  | "-gt" => some fun a b => decide (b < a)
  | "-ge" => some fun a b => decide (b ≤ a)
  | _ => none

/-- The tests with one operand. -/
def unaryOperators (dialect : Dialect) : List String :=
  ["-r", "-w", "-x", "-e", "-f", "-d", "-c", "-b", "-p", "-u", "-g", "-k", "-s", "-t", "-z", "-n",
    "-h", "-O", "-G", "-L", "-S"] ++ if dialect = .extended then ["-v"] else []

/-- The tests with two operands. -/
def binaryOperators (dialect : Dialect) : List String :=
  ["=", "!=", "-eq", "-ne", "-ge", "-gt", "-le", "-lt", "-nt", "-ot", "-ef"] ++
    (if dialect = .shell then [] else ["=="]) ++ if dialect = .program then [] else ["<", ">"]

/-! ## Errors -/

/-- Why a test makes no sense. -/
inductive TestError
  /-- A word stands where none belongs, in a test of so many words. -/
  | operator (word : String) (count : Nat)
  /-- An operand is missing. -/
  | operand (operator : String)
  /-- A bracket is not closed. -/
  | bracket
  /-- An operand is no number. -/
  | number (word : String)
deriving DecidableEq

/-- How an error is put. -/
def TestError.message (dialect : Dialect) : TestError → String
  | .operator word count =>
    match dialect with
    | .shell => word ++ ": unexpected operator"
    | .extended =>
      if count = 2 then word ++ ": unary operator expected"
      else if count = 3 then word ++ ": binary operator expected"
      else "too many arguments"
    | .program =>
      if count = 2 then "'" ++ word ++ "': unary operator expected"
      else if count = 3 then "'" ++ word ++ "': binary operator expected"
      else "extra argument '" ++ word ++ "'"
  | .operand sign =>
    match dialect with
    | .shell => sign ++ ": argument expected"
    | .extended => "argument expected"
    | .program => "missing argument after '" ++ sign ++ "'"
  | .bracket =>
    match dialect with
    | .shell => "closing paren expected"
    | .extended => "\x60)' expected"
    | .program => "')' expected"
  | .number word =>
    match dialect with
    | .shell => "Illegal number: " ++ word
    | .extended => word ++ ": integer expression expected"
    | .program => "invalid integer '" ++ word ++ "'"

/-! ## The grammar -/

/-- What a word of a test is. -/
inductive TestWord
  /-- There is no word. -/
  | finish
  | operand
  | unary
  | binary
  | not
  | conjunction
  | disjunction
  | openGroup
  | closeGroup
deriving DecidableEq

/-- What a word is by itself. -/
def wordKind (dialect : Dialect) (w : String) : TestWord :=
  if (unaryOperators dialect).contains w then .unary
  else if (binaryOperators dialect).contains w then .binary
  else if w = "!" then .not
  else if w = "-a" then .conjunction
  else if w = "-o" then .disjunction
  else if w = "(" then .openGroup
  else if w = ")" then .closeGroup
  else .operand

/-- What the first of some words is. A sign is an operand where it cannot be anything else. -/
def firstKind (dialect : Dialect) : List String → TestWord
  | [] => .finish
  | w :: rest =>
    match wordKind dialect w, rest with
    | .unary, [] => .operand
    | .unary, [_] => .unary
    | .unary, next :: _ :: _ =>
      if wordKind dialect next = .binary then .operand else .unary
    | .openGroup, [] => .operand
    | kind, _ => kind

/-- A number in a test. -/
def testNumber (w : String) : Except TestError Int :=
  let cs := Template.dropBlanks w.toList
  let digits := match cs with
    | '-' :: ds => ds
    | '+' :: ds => ds
    | ds => ds
  let number := digits.takeWhile Char.isDigit
  let rest := Template.dropBlanks (digits.drop number.length)
  if number.isEmpty || !rest.isEmpty then .error (.number w)
  else
    let n : Int := Decimal.digitsValue number
    .ok (if cs.head? = some '-' then -n else n)

/-- Whether a test with one operand holds. -/
def unaryTest (f : Facts) (operator operand : String) : Except TestError Bool :=
  match operator with
  | "-n" => .ok !operand.isEmpty
  | "-z" => .ok operand.isEmpty
  | "-t" => (testNumber operand).map fun _ => false
  | "-v" => .ok (f.isSet operand)
  | "-o" => .ok (f.isOn operand)
  | _ => .ok ((fileTest? f operator operand).getD false)

/-- Whether a test with two operands holds. -/
def binaryTest (f : Facts) (left operator right : String) : Except TestError Bool :=
  match operator with
  | "=" | "==" => .ok (left == right)
  | "!=" => .ok (left != right)
  | "<" => .ok (left < right)
  | ">" => .ok (right < left)
  | "-nt" => .ok (isNewer f.disk left right)
  | "-ot" => .ok (isNewer f.disk right left)
  | "-ef" => .ok (sameEntry f.disk left right)
  | _ => do
    let a ← testNumber left
    let b ← testNumber right
    .ok (((comparison? operator).map fun holds => holds a b).getD false)

/-- What was read of a test: whether it holds, and the words from its last one on. -/
abbrev Tested : Type := Except TestError (Bool × List String)

/-- A test without signs between tests. `inner` reads tests with signs between them. -/
def primaryTest (dialect : Dialect) (f : Facts) (inner : List String → Tested)
    (words : List String) : Tested :=
  match firstKind dialect words, words with
  | .finish, _ => .ok (false, words)
  | .openGroup, _ :: rest =>
    if firstKind dialect rest = .closeGroup then .ok (false, rest)
    else do
      let (holds, last) ← inner rest
      if firstKind dialect last.tail = .closeGroup then .ok (holds, last.tail) else .error .bracket
  | .unary, operator :: rest =>
    match rest with
    | [] => .error (.operand operator)
    | operand :: _ => do .ok (← unaryTest f operator operand, rest)
  | _, left :: rest =>
    if firstKind dialect rest = .binary then
      match rest with
      | operator :: right :: more => do
        .ok (← binaryTest f left operator right, right :: more)
      | operator :: [] => .error (.operand operator)
      | [] => .ok (!left.isEmpty, words)
    else .ok (!left.isEmpty, words)
  | _, [] => .ok (false, words)

/-- A test that may be turned round. At most so many signs are read. -/
def negatedTest (dialect : Dialect) (f : Facts) (inner : List String → Tested) :
    Nat → List String → Tested
  | 0, words => primaryTest dialect f inner words
  | n + 1, words =>
    if firstKind dialect words = .not then
      match words.tail with
      | [] => .ok (true, words)
      | rest => do
        let (holds, last) ← negatedTest dialect f inner n rest
        .ok (!holds, last)
    else primaryTest dialect f inner words

/-- Tests with one sign between them. At most so many are read. -/
def joinedTest (dialect : Dialect) (sign : TestWord) (join : Bool → Bool → Bool)
    (single : List String → Tested) : Nat → Bool → List String → Tested
  | 0, holds, last => .ok (holds, last)
  | n + 1, holds, last =>
    if firstKind dialect last.tail = sign then do
      let (more, last) ← single (last.drop 2)
      joinedTest dialect sign join single n (join holds more) last
    else .ok (holds, last)

/-- Tests with signs between them, in brackets at most so deep. -/
def fullTest (dialect : Dialect) (f : Facts) : Nat → List String → Tested
  | 0, words => .ok (false, words)
  | n + 1, words => do
    let size := words.length + 1
    let single := negatedTest dialect f (fullTest dialect f n) size
    let conjunction (words : List String) : Tested := do
      let (holds, last) ← single words
      joinedTest dialect .conjunction (· && ·) single size holds last
    let (holds, last) ← conjunction words
    joinedTest dialect .disjunction (· || ·) conjunction size holds last

/-- Whether a test of any number of words holds. -/
def generalTest (dialect : Dialect) (f : Facts) (words : List String) : Except TestError Bool := do
  let (holds, last) ← fullTest dialect f (words.length + 1) words
  match last with
  | w :: next :: _ =>
    .error (.operator (if dialect = .program then next else w) words.length)
  | _ => .ok holds

/-- Whether a test holds. A test of three words with a sign in the middle is taken for just that;
in a test of three or four words, brackets around it and a sign in front of it are looked at first.
A test of two words starts with a sign, except in the plain language. At most so many signs are gone
past. -/
def testUpTo (dialect : Dialect) (f : Facts) : Nat → List String → Except TestError Bool
  | 0, _ => .ok false
  | n + 1, words =>
    let short : Except TestError Bool :=
      if words.head? = some "(" ∧ words.getLast? = some ")" then
        generalTest dialect f words.tail.dropLast
      else if words.head? = some "!" then (testUpTo dialect f n words.tail).map (!·)
      else generalTest dialect f words
    match words with
    | [] => .ok false
    | [operator, operand] =>
      if dialect = .shell ∨ operator = "!" ∨ wordKind dialect operator = .unary then short
      else if dialect = .extended ∧ operator = "-a" then unaryTest f "-e" operand
      else if dialect = .extended ∧ operator = "-o" then unaryTest f "-o" operand
      else if dialect = .program ∧ !(operator.startsWith "-" && operator.length == 2) then
        .error (.operand operand)
      else .error (.operator operator 2)
    | [left, operator, right] =>
      if wordKind dialect operator = .binary then binaryTest f left operator right
      else if dialect != .shell && left != "!" && left != "(" && operator != "-a" &&
          operator != "-o" then
        .error (.operator operator 3)
      else short
    | [_, _, _, _] => short
    | _ => generalTest dialect f words

/-- Whether a test holds. -/
def test (dialect : Dialect) (f : Facts) (words : List String) : Except TestError Bool :=
  testUpTo dialect f (words.length + 1) words

end AslBuild.Shell
