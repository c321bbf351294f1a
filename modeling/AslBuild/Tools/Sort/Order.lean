import AslBuild.Text.Decimal
import AslBuild.Text.Version
import AslBuild.Tools.Task
set_option autoImplicit false

/-!
# The order of lines

Lines are compared by keys: parts of them that fields delimit. Keys that do not differ leave it to
the whole lines.

## Main definitions

* `AslBuild.Tools.SortKey` — a key.
* `AslBuild.Tools.SortStyle.compare` — how two parts of lines compare.
* `AslBuild.Tools.SortPlan.compare` — how two lines compare.
* `AslBuild.Tools.SortPlan.sorted`, `AslBuild.Tools.SortPlan.merged` — lines in their order.
-/

namespace AslBuild.Tools

open Text

/-! ## Keys -/

/-- Which characters do not count. -/
inductive Ignored
  /-- All that are neither blanks nor letters nor digits. -/
  | signs
  /-- All that cannot be printed. -/
  | hidden
deriving DecidableEq

/-- How keys are compared. -/
structure SortStyle where
  /-- As numbers. -/
  numeric : Bool := false
  /-- As numbers that may have exponents. -/
  general : Bool := false
  /-- As numbers with letters behind them that make them larger. -/
  sizes : Bool := false
  /-- As names of months. -/
  months : Bool := false
  /-- As names with version numbers in them. -/
  versions : Bool := false
  /-- In no order that could be foreseen. -/
  shuffled : Bool := false
  /-- With large and small letters alike. -/
  folds : Bool := false
  /-- Without some of the characters. -/
  ignored : Option Ignored := none
  /-- From the largest to the smallest. -/
  reversed : Bool := false
  /-- Without the blanks in front of the start. -/
  skipsStart : Bool := false
  /-- Without the blanks in front of the field in which the end is. -/
  skipsEnd : Bool := false
deriving DecidableEq

/-- A place in a line: how many fields are in front of it, and how many characters besides. -/
structure Spot where
  field : Nat
  char : Nat

/-- A key. -/
structure SortKey where
  /-- Where it starts. -/
  start : Spot
  /-- Where it ends, if not at the end of the line. -/
  stop : Option Spot := none
  /-- How it is compared. -/
  style : SortStyle := {}

/-- Whether a character is a blank. -/
def isBlankChar (c : Char) : Bool := c == ' ' || c == '\t' || c == '\n'

/-- The rest of a line behind so many fields. -/
def behindFields (tab : Option Char) : Nat → List Char → List Char
  | 0, cs => cs
  | n + 1, cs =>
    match tab with
    | some t => behindFields tab n (cs.dropWhile (· != t)).tail
    | none => behindFields tab n ((cs.dropWhile isBlankChar).dropWhile fun c => !isBlankChar c)

/-- The rest of a line from the start of a key on. -/
def SortKey.fromStart (k : SortKey) (tab : Option Char) (cs : List Char) : List Char :=
  let rest := behindFields tab k.start.field cs
  let rest := if k.style.skipsStart then rest.dropWhile isBlankChar else rest
  rest.drop k.start.char

/-- The rest of a line behind the end of a key. An end in front of the first character of a field is
the end of the field. -/
def SortKey.behindEnd (k : SortKey) (tab : Option Char) (s : Spot) (cs : List Char) : List Char :=
  if s.char = 0 then
    match tab with
    | some t => (behindFields tab s.field cs).dropWhile (· != t)
    | none => behindFields tab (s.field + 1) cs
  else
    let rest := behindFields tab s.field cs
    let rest := if k.style.skipsEnd then rest.dropWhile isBlankChar else rest
    rest.drop s.char

/-- The part of a line that a key means. -/
def SortKey.part (k : SortKey) (tab : Option Char) (cs : List Char) : List Char :=
  let first := k.fromStart tab cs
  match k.stop with
  | none => first
  | some s => first.take (first.length - (k.behindEnd tab s cs).length)

/-! ## Numbers -/

/-- The order of two whole numbers. -/
def orderOf (n : Int) : Ordering := compare n 0

/-- The number at the start of some characters, as a fraction; it has no exponent. -/
def leadingNumber (cs : List Char) : Int × Nat :=
  let (negative, digits) := match cs.dropWhile isBlankChar with
    | '-' :: ds => (true, ds)
    | ds => (false, ds)
  match Decimal.readUnsigned (digits.takeWhile fun c => c.isDigit || c == '.') with
  | some (d, _) => (if negative then -(d.num : Int) else d.num, d.den)
  | none => (0, 1)

/-- The order of two fractions. -/
def compareFractions (a b : Int × Nat) : Ordering := compare (a.1 * b.2) (b.1 * a.2)

/-- A number that may have no bounds, or be none. -/
inductive WideNumber
  /-- There is no number. -/
  | missing
  /-- It is not a number. -/
  | undefined
  /-- It is smaller, or larger, than all others. -/
  | infinite (negative : Bool)
  /-- A fraction. -/
  | finite (num : Int) (den : Nat)

/-- The number that some hexadecimal digits with a point spell, and a power of two. -/
def hexNumber (cs : List Char) : WideNumber :=
  let isHex (c : Char) : Bool := c.isDigit || ('a' ≤ c && c ≤ 'f') || ('A' ≤ c && c ≤ 'F')
  let value (ds : List Char) : Nat := ds.foldl (fun n c =>
    16 * n + (if c.isDigit then c.toNat - 48 else c.toLower.toNat - 87)) 0
  let whole := cs.takeWhile isHex
  let (fraction, rest) := match cs.drop whole.length with
    | '.' :: rest => (rest.takeWhile isHex, rest.dropWhile isHex)
    | rest => ([], rest)
  let power : Int := match rest with
    | p :: rest =>
      if p = 'p' ∨ p = 'P' then
        match rest with
        | '-' :: ds => -(Decimal.digitsValue (ds.takeWhile Char.isDigit) : Int)
        | '+' :: ds | ds => Decimal.digitsValue (ds.takeWhile Char.isDigit)
      else 0
    | [] => 0
  let power := max (-Decimal.maxExponent) (min Decimal.maxExponent power)
  let num := value (whole ++ fraction)
  let den := Nat.pow 16 fraction.length
  if power < 0 then .finite num (den * Nat.pow 2 power.natAbs)
  else .finite (num * Nat.pow 2 power.toNat) den

/-- The number at the start of some characters, in any notation. -/
def wideNumber (cs : List Char) : WideNumber :=
  let cs := cs.dropWhile fun c => c == ' ' || (0x09 ≤ c.toNat && c.toNat ≤ 0x0D)
  let (negative, cs) := match cs with
    | '-' :: cs => (true, cs)
    | '+' :: cs => (false, cs)
    | cs => (false, cs)
  let signed (n : WideNumber) : WideNumber := match n with
    | .finite num den => .finite (if negative then -num else num) den
    | n => n
  match (cs.take 3).map Char.toLower with
  | ['i', 'n', 'f'] => .infinite negative
  | ['n', 'a', 'n'] => .undefined
  | _ =>
    match cs with
    | '0' :: x :: rest =>
      let digits := rest.dropWhile (· == '.')
      let isHex := (x = 'x' ∨ x = 'X') ∧
        (digits.head?).any fun c => c.isDigit || ('a' ≤ c.toLower && c.toLower ≤ 'f')
      if isHex then signed (hexNumber rest) else decimal signed cs
    | _ => decimal signed cs
where
  /-- The number at the start of some characters, in decimal notation. -/
  decimal (signed : WideNumber → WideNumber) (cs : List Char) : WideNumber :=
    match Decimal.readUnsigned cs with
    | some (d, _) => signed (.finite d.num d.den)
    | none => .missing

/-- The place of a number among those that cannot be compared as numbers. -/
def WideNumber.rank : WideNumber → Nat
  | .missing => 0
  | .undefined => 1
  | .infinite true => 2
  | .finite .. => 3
  | .infinite false => 4

/-- The order of two numbers. -/
def WideNumber.compare : WideNumber → WideNumber → Ordering
  | .finite a b, .finite c d => compareFractions (a, b) (c, d)
  | a, b => Ord.compare a.rank b.rank

/-- The letters behind numbers that make them larger. -/
def sizeLetters : List Char := ['K', 'M', 'G', 'T', 'P', 'E', 'Z', 'Y', 'R', 'Q']

/-- The rank of the letter behind a number. -/
def sizeRank (cs : List Char) : Int :=
  let (negative, digits) := match cs with
    | '-' :: ds => (true, ds)
    | ds => (false, ds)
  let whole := digits.takeWhile Char.isDigit
  let (fraction, rest) := match digits.drop whole.length with
    | '.' :: rest => (rest.takeWhile Char.isDigit, rest.dropWhile Char.isDigit)
    | rest => ([], rest)
  if (whole ++ fraction).all (· == '0') then 0
  else
    let letter := match rest with
      | c :: _ => (sizeLetters.findIdx? (· == if c = 'k' then 'K' else c)).elim 0 (· + 1)
      | [] => 0
    if negative then -(letter : Int) else letter

/-- The order of two numbers with letters behind them: the letter counts first, and then the
number. -/
def compareSizes (a b : List Char) : Ordering :=
  let a := a.dropWhile isBlankChar
  let b := b.dropWhile isBlankChar
  match compare (sizeRank a) (sizeRank b) with
  | .eq => compareFractions (leadingNumber a) (leadingNumber b)
  | order => order

/-- The names of the months. -/
def monthNames : List String :=
  ["JAN", "FEB", "MAR", "APR", "MAY", "JUN", "JUL", "AUG", "SEP", "OCT", "NOV", "DEC"]

/-- The number of the month that a text starts with, or zero. -/
def monthOf (cs : List Char) : Nat :=
  let name := String.ofList (((cs.dropWhile isBlankChar).take 3).map Char.toUpper)
  (monthNames.findIdx? (· == name)).elim 0 (· + 1)

/-! ## Comparing -/

/-- The order of two lists of characters. -/
def compareChars : List Char → List Char → Ordering
  | [], [] => .eq
  | [], _ :: _ => .lt
  | _ :: _, [] => .gt
  | a :: as, b :: bs => if a = b then compareChars as bs else compare a.toNat b.toNat

/-- Whether a character does not count. -/
def Ignored.has (c : Char) : Ignored → Bool
  | .signs => !(c.isAlphanum || isBlankChar c)
  | .hidden => !(0x20 ≤ c.toNat && c.toNat < 0x7F)

/-- The order of two parts of lines. -/
def SortStyle.compare (s : SortStyle) (a b : List Char) : Ordering :=
  let kept (cs : List Char) : List Char :=
    let cs := match s.ignored with
      | some i => cs.filter fun c => !i.has c
      | none => cs
    if s.folds then cs.map Char.toUpper else cs
  let x := kept a
  let y := kept b
  let order :=
    if s.numeric then compareFractions (leadingNumber x) (leadingNumber y)
    else if s.general then (wideNumber x).compare (wideNumber y)
    else if s.sizes then compareSizes x y
    else if s.months then Ord.compare (monthOf x) (monthOf y)
    else if s.versions then orderOf (Version.compareNames x y)
    else compareChars x y
  if s.reversed then order.swap else order

/-- How lines are sorted. -/
structure SortPlan where
  /-- The keys. -/
  keys : List SortKey := []
  /-- The character between fields, if it is not blanks that separate them. -/
  tab : Option Char := none
  /-- Whether whole lines are compared from the largest to the smallest. -/
  reversed : Bool := false
  /-- Whether lines with the same keys count as the same. -/
  unique : Bool := false
  /-- Whether lines with the same keys stay in their order. -/
  stable : Bool := false

/-- The order of two lines by keys. -/
def SortPlan.byKeys (p : SortPlan) (a b : List Char) : List SortKey → Ordering
  | [] => .eq
  | k :: ks =>
    match k.style.compare (k.part p.tab a) (k.part p.tab b) with
    | .eq => p.byKeys a b ks
    | order => order

/-- The order of two lines by their characters. -/
def SortPlan.byChars (p : SortPlan) (a b : List Char) : Ordering :=
  if p.reversed then (compareChars a b).swap else compareChars a b

/-- The order of two lines. -/
def SortPlan.compare (p : SortPlan) (a b : List Char) : Ordering :=
  if p.keys.isEmpty then p.byChars a b
  else match p.byKeys a b p.keys with
    | .eq => if p.unique || p.stable then .eq else p.byChars a b
    | order => order

/-- Lines without those that count as the same as the one in front of them. -/
def SortPlan.distinct (p : SortPlan) : List (List Char) → List (List Char)
  | a :: b :: rest =>
    if p.compare a b == .eq then p.distinct (a :: rest) else a :: p.distinct (b :: rest)
  | lines => lines
termination_by lines => lines.length

/-- Lines without repetitions, if that is asked for. -/
def SortPlan.thinned (p : SortPlan) (lines : List (List Char)) : List (List Char) :=
  if p.unique then p.distinct lines else lines

/-- Lines in their order. -/
def SortPlan.sorted (p : SortPlan) (lines : List (List Char)) : List (List Char) :=
  p.thinned (lines.mergeSort fun a b => p.compare a b != .gt)

/-- Two lists of lines as one: the smaller of their first lines comes first. -/
def SortPlan.mergedTwo (p : SortPlan) : List (List Char) → List (List Char) → List (List Char)
  | [], bs => bs
  | as, [] => as
  | a :: as, b :: bs =>
    if p.compare a b == .gt then b :: p.mergedTwo (a :: as) bs
    else a :: p.mergedTwo as (b :: bs)
termination_by as bs => as.length + bs.length

/-- Lists of lines as one: the smallest of their first lines comes first. -/
def SortPlan.merged (p : SortPlan) (files : List (List (List Char))) : List (List Char) :=
  p.thinned (files.foldl p.mergedTwo [])

/-- The first line that is out of order, with its number. -/
def SortPlan.disorder? (p : SortPlan) : Nat → List (List Char) → Option (Nat × List Char)
  | n, a :: b :: rest =>
    let order := p.compare a b
    if order == .gt || (p.unique && order == .eq) then some (n + 1, b)
    else p.disorder? (n + 1) (b :: rest)
  | _, _ => none
termination_by _ lines => lines.length

end AslBuild.Tools
