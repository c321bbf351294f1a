import AslBuild.Shell.Test
import AslBuild.Text.Decimal
import AslBuild.Text.Escape
import AslBuild.Text.Template
import AslBuild.Tools.Option
set_option autoImplicit false

/-!
# Tools that print values

## Main definitions

* `AslBuild.Tools.echo`, `AslBuild.Tools.printf`, `AslBuild.Tools.yes` — print arguments.
* `AslBuild.Tools.test`, `AslBuild.Tools.bracket` — test arguments.
* `AslBuild.Tools.seq` — print numbers.
* `AslBuild.Tools.sleep` — let time pass.
-/

namespace AslBuild.Tools

open FileSystem Host Text

/-! ## Arguments -/

/-- The escapes that `echo` knows if it is asked for them. -/
def echoEscapes : Escape.Style :=
  { octal := true, zeroOctal := true, hex := true, stops := true }

/-- The options in front of the arguments of `echo`, and the others. -/
def echoOptions : List String → List Char × List String
  | [] => ([], [])
  | a :: args =>
    match a.toList with
    | '-' :: c :: cs =>
      if (c :: cs).all fun c => "neE".toList.contains c then
        let (more, rest) := echoOptions args
        (c :: cs ++ more, rest)
      else ([], a :: args)
    | _ => ([], a :: args)

/-- Print the arguments. -/
def echo : Tool := .ofTask fun args => do
  let (opts, words) := echoOptions args
  let text := " ".intercalate words
  let escapes := (opts.filter (· != 'n')).getLast? == some 'e'
  let (text, stop) := if escapes then Escape.unescape echoEscapes text else (text, false)
  say (if opts.contains 'n' || stop then text else text ++ "\n")

/-- Print a template with the other arguments in it. -/
def printf : Tool := .ofTask fun args => do
  match if args.head? = some "--" then args.tail else args with
  | [] => misuse 1 "missing operand"
  | template :: args => do
    let filled := Template.fill .program template args
    filled.messages.forM remark
    mark filled.status
    say filled.out

/-- How often `yes` prints at most. -/
def yesLimit : Nat := 4

/-- Print the arguments again and again. -/
def yes : Tool := .ofTask fun args => do
  let g ← given { letters := "" } args
  let line := (if g.operands.isEmpty then "y" else " ".intercalate g.operands) ++ "\n"
  let times := pipeLimit / line.length + 1
  let text := String.join (List.replicate times line)
  (List.range yesLimit).forM fun _ => say text

/-- Do nothing. -/
def true_ : Tool := .ofTask fun _ => pure ()

/-- Do nothing, and fail. -/
def false_ : Tool := .ofTask fun _ => mark 1

/-! ## Tests -/

/-- Test what some words say. -/
def testWords (words : List String) : Task Unit := do
  let desk ← Act.read
  let opened := openedAt? desk.machine desk.process
  match Shell.test .program { disk := ← files, opened } words with
  | .ok holds => mark (if holds then 0 else 1)
  | .error e => die 2 (e.message .program)

/-- Test what the arguments say. -/
def test : Tool := .ofTask testWords

/-- Test what the arguments in front of a closing bracket say. -/
def bracket : Tool := .ofTask fun args => do
  if args.getLast? = some "]" then testWords args.dropLast else die 2 "missing ']'"

/-! ## Numbers -/

/-- A number with some digits behind the point: the number times a power of ten, and how many
digits there are. -/
structure Scaled where
  /-- The number without its point. -/
  digits : Int
  /-- How many of the digits are behind the point. -/
  places : Nat

namespace Scaled

/-- The number that a text spells. -/
def ofText? (text : String) : Option Scaled := do
  let cs := text.toList.dropWhile (· == ' ')
  let (negative, cs) := match cs with
    | '-' :: cs => (true, cs)
    | '+' :: cs => (false, cs)
    | cs => (false, cs)
  let sign (n : Nat) : Int := if negative then -(n : Int) else n
  match cs with
  | '0' :: 'x' :: hs =>
    let (n, rest) := Escape.readDigits 16 hs.length 0 hs
    if hs.isEmpty || !rest.isEmpty then none else some ⟨sign n, 0⟩
  | cs => do
    let (_, rest) ← Decimal.readUnsigned cs
    if !rest.isEmpty then none
    let whole := cs.takeWhile Char.isDigit
    let fraction := match cs.drop whole.length with
      | '.' :: fs => fs.takeWhile Char.isDigit
      | _ => []
    let tail := (cs.drop whole.length).dropWhile fun c => c == '.' || c.isDigit
    let (exponent, _) := Decimal.readExponent tail
    let n := Decimal.digitsValue (whole ++ fraction)
    let places : Int := fraction.length - exponent
    some (if places < 0 then ⟨sign (n * Nat.pow 10 places.natAbs), 0⟩ else ⟨sign n, places.toNat⟩)

/-- The digits of a number with at least as many places. -/
def digitsAt (s : Scaled) (places : Nat) : Int := s.digits * Int.pow 10 (places - s.places)

/-- The text of a number. -/
def text (places : Nat) (n : Int) : String :=
  let ds := (toString n.natAbs).toList
  let ds := List.replicate (places + 1 - ds.length) '0' ++ ds
  let whole := ds.take (ds.length - places)
  let body := if places = 0 then whole else whole ++ '.' :: ds.drop (ds.length - places)
  String.ofList (if n < 0 then '-' :: body else body)

/-- Numbers from a first to a last one, with so much between each two. -/
def upTo (last step : Int) : Nat → Int → List Int
  | 0, _ => []
  | n + 1, value =>
    if (0 < step ∧ last < value) ∨ (step < 0 ∧ value < last) then []
    else value :: upTo last step n (value + step)

end Scaled

/-- The directives in a format: the letters that end them. -/
def directives : Nat → List Char → List String
  | 0, _ => []
  | _, [] => []
  | n + 1, '%' :: '%' :: cs => directives n cs
  | n + 1, '%' :: cs =>
    let rest := cs.dropWhile fun c => "-+ #0'.".toList.contains c || c.isDigit
    String.ofList (rest.take 1) :: directives n (rest.drop 1)
  | n + 1, _ :: cs => directives n cs

/-- The options of `seq`. -/
def seqChoices : Choices where
  letters := "f:s:w"
  words := [("format", 'f'), ("separator", 's'), ("equal-width", 'w')]
  ordered := true

/-- Whether an argument is a number below zero. -/
def isNegative (a : String) : Bool :=
  match a.toList with
  | '-' :: c :: _ => c.isDigit || c == '.'
  | _ => false

/-- The options in front of some arguments, where a number below zero is none. -/
def seqGiven (args : List String) : Task Given := do
  match args.span fun a => !isNegative a with
  | (front, []) => given seqChoices front
  | (front, rest) =>
    let g ← given seqChoices front
    pure { g with operands := g.operands ++ rest }

/-- How a format makes no sense, if it does not. -/
def badFormat? (format : String) : Option String :=
  match directives (format.length + 1) format.toList with
  | [] => some ("format " ++ quoted format ++ " has no % directive")
  | [letter] =>
    if letter.isEmpty then some ("format " ++ quoted format ++ " ends in %")
    else if ["f", "e", "g", "a", "F", "E", "G", "A"].contains letter then none
    else some ("format " ++ quoted format ++ " has unknown %" ++ letter ++ " directive")
  | _ => some ("format " ++ quoted format ++ " has too many % directives")

/-- The most numbers that `seq` prints. -/
def seqLimit : Nat := 1000000

/-- Print numbers. -/
def seq : Tool := .ofTask fun args => do
  let g ← seqGiven args
  let number (text : String) : Task Scaled := do
    match Scaled.ofText? text with
    | some s => pure s
    | none => misuse 1 ("invalid floating point argument: " ++ quoted text)
  let one : Scaled := ⟨1, 0⟩
  let (first, step, last, middle) ← match g.operands with
    | [] => misuse 1 "missing operand"
    | [l] => do pure (one, one, ← number l, "1")
    | [f, l] => do pure (← number f, one, ← number l, "1")
    | [f, s, l] => do pure (← number f, ← number s, ← number l, s)
    | _ :: _ :: _ :: extra :: _ => misuse 1 ("extra operand " ++ quoted extra)
  if step.digits = 0 then misuse 1 ("invalid Zero increment value: " ++ quoted middle)
  match (g.value? 'f').bind badFormat? with
  | some message => die 1 message
  | none => pure ()
  let places := max first.places (max step.places last.places)
  let shown := max first.places step.places
  let numbers := Scaled.upTo (last.digitsAt places) (step.digitsAt places) seqLimit
    (first.digitsAt places)
  let texts := numbers.map fun n => Scaled.text shown (n / Int.pow 10 (places - shown))
  let spelled (index : Nat) (s : Scaled) : Nat :=
    let given := (g.operands[index]?.getD "1").length + (shown - s.places)
    if s.places = 0 ∧ 0 < shown then given + 1
    else if 0 < s.places ∧ shown = 0 then given - s.places - 1 else given
  let width := if g.operands.length = 1 then spelled 0 last
    else max (spelled 0 first) (spelled (g.operands.length - 1) last)
  let padded (t : String) : String :=
    let zeros := String.ofList (List.replicate (width - t.length) '0')
    if t.startsWith "-" then "-" ++ zeros ++ (t.drop 1).toString else zeros ++ t
  let texts := match g.value? 'f' with
    | some format => texts.map fun t => (Template.fill .program format [t]).out
    | none => if g.has 'w' then texts.map padded else texts
  if texts.isEmpty then pure ()
  else say (((g.value? 's').getD "\n").intercalate texts ++ "\n")

/-! ## Time -/

/-- The thousandths of a second in units of time. -/
def timeUnits : List (String × Int) :=
  [("", 1000), ("s", 1000), ("m", 60000), ("h", 3600000), ("d", 86400000)]

/-- The thousandths of a second in a span of time that is larger than any that passes. -/
def endlessSpan : Int := Int.pow 2 53

/-- The thousandths of a second in the span of time that a text spells. -/
def interval? (text : String) : Option Int :=
  match Decimal.read text.toList with
  | some (d, rest) =>
    if d.negative then none
    else (timeUnits.lookup (String.ofList rest)).map fun unit => d.thousandths * unit / 1000
  | none => if text = "infinity" ∨ text = "inf" then some endlessSpan else none

/-- Let time pass. -/
def sleep : Tool := .ofTask fun args => do
  let g ← given { letters := "" } args
  if g.operands.isEmpty then misuse 1 "missing operand"
  match g.operands.filter fun t => (interval? t).isNone with
  | [] => do
    let span := (g.operands.filterMap interval?).foldl (· + ·) 0
    match ← onMachine fun p => passTime p span with
    | some signal => Act.fail (.killed signal)
    | none => pure ()
  | bad => do
    bad.dropLast.forM fun t => remark ("invalid time interval " ++ quoted t)
    misuse 1 ("invalid time interval " ++ quoted (bad.getLast?.getD ""))

end AslBuild.Tools
