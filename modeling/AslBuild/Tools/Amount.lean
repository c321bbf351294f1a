import AslBuild.Text.Escape
import AslBuild.Tools.Task
set_option autoImplicit false

/-!
# Amounts

Tools are told numbers as arguments. Behind a number may stand letters that make it larger, and a
number that is out of range is refused for another reason than a text that is no number.

## Main definitions

* `AslBuild.Tools.amount?` — the number that a text spells, letters included.
* `AslBuild.Tools.amountOf`, `AslBuild.Tools.integerOf` — the number that an argument spells.
* `AslBuild.Tools.wordOf` — what a word among some others stands for.
-/

namespace AslBuild.Tools

open Text

/-! ## Numbers with letters -/

/-- Why a text is no amount. -/
inductive AmountProblem
  /-- It is no number. -/
  | invalid
  /-- What stands behind the number makes no sense. -/
  | suffix
  /-- The number is larger than any. -/
  | tooLarge
deriving DecidableEq

/-- The largest amount. -/
def maxAmount : Nat := Nat.pow 2 64 - 1

/-- The letters that stand for powers, each with its power. -/
def powerLetters : List (Char × Nat) :=
  [('k', 1), ('K', 1), ('m', 2), ('M', 2), ('g', 3), ('G', 3), ('t', 4), ('T', 4), ('P', 5),
    ('E', 6), ('Z', 7), ('Y', 8), ('R', 9), ('Q', 10)]

/-- The factor that letters behind a number stand for, where these may be the first of them. A zero
among those tells that others may follow that say of what the power is. -/
def amountFactor? (suffixes : String) : List Char → Option Nat
  | [] => some 1
  | c :: rest =>
    if !suffixes.toList.contains c then none
    else match powerLetters.lookup c with
      | some power =>
        match suffixes.toList.contains '0', rest with
        | _, [] | true, ['i', 'B'] => some (Nat.pow 1024 power)
        | true, ['B'] | true, ['D'] => some (Nat.pow 1000 power)
        | _, _ => none
      | none =>
        match c, rest with
        | 'b', [] => some 512
        | 'B', [] => some 1024
        | 'c', [] => some 1
        | 'w', [] => some 2
        | _, _ => none

/-- Whether a character is a blank in front of a number. -/
def isNumberBlank (c : Char) : Bool := c == ' ' || (0x09 ≤ c.toNat && c.toNat ≤ 0x0D)

/-- The whole number that some characters start with, in a base, and what follows it. Zero as base
stands for the one that the first digits tell, as they do in the sources of programs. -/
def wholeIn (base : Nat) (cs : List Char) : Option Nat × List Char :=
  let prefixed := match cs with
    | '0' :: x :: d :: _ => (x == 'x' || x == 'X') && Escape.digitOf d < 16
    | _ => false
  let (base, cs) :=
    if prefixed && (base == 0 || base == 16) then (16, cs.drop 2)
    else if base = 0 then (if cs.head? = some '0' then 8 else 10, cs)
    else (base, cs)
  let ds := (cs.map Escape.digitOf).takeWhile (· < base)
  (if ds.isEmpty then none else some (ds.foldl (fun n d => n * base + d) 0), cs.drop ds.length)

/-- The amount that a text spells in a base, or why it spells none: what is behind the number may be
at fault. -/
def amountIn (base : Nat) (suffixes text : String) : Except AmountProblem Nat :=
  let cs := text.toList.dropWhile isNumberBlank
  let cs := if cs.head? = some '+' then cs.drop 1 else cs
  match wholeIn base cs with
  | (none, rest) =>
    match rest.head?, amountFactor? suffixes rest with
    | some _, some factor => .ok factor
    | _, _ => if rest.head?.any suffixes.toList.contains then .error .suffix else .error .invalid
  | (some n, rest) =>
    match amountFactor? suffixes rest with
    | none => .error .suffix
    | some factor => if maxAmount < n * factor then .error .tooLarge else .ok (n * factor)

/-- The amount that a text spells. -/
def amount? (suffixes text : String) : Except AmountProblem Nat :=
  match amountIn 10 suffixes text with
  | .error .suffix => .error .invalid
  | amount => amount

/-! ## Arguments -/

/-- Complain about an argument that is no number, or is out of range. -/
def refuseNumber {α : Type} (trouble : Nat) (what text : String) (reason : Option Errno) :
    Task α :=
  die trouble (what ++ ": " ++ quoted text ++ match reason with
    | some errno => ": " ++ errno.description
    | none => "")

/-- Why a number is out of range. -/
def rangeProblem (n : Int) : Errno :=
  if n < -(Int.pow 2 30) ∨ Int.pow 2 30 ≤ n then .overflow else .outOfRange

/-- The amount that an argument spells. `what` says what is wrong with one that is none. -/
def amountOf (what suffixes : String) (least : Nat) (text : String) : Task Nat := do
  match amount? suffixes text with
  | .ok n => if n < least then refuseNumber 1 what text (rangeProblem n) else pure n
  | .error .tooLarge => refuseNumber 1 what text (some .overflow)
  | .error _ => refuseNumber 1 what text none

/-- The number that the argument of an option spells, in a base. `option` is how the option was
given. -/
def optionAmount (base : Nat) (suffixes option text : String) : Task Nat := do
  match amountIn base suffixes text with
  | .ok n => pure n
  | .error .invalid => die 1 ("invalid " ++ option ++ " argument " ++ quoted text)
  | .error .suffix => die 1 ("invalid suffix in " ++ option ++ " argument " ++ quoted text)
  | .error .tooLarge => die 1 (option ++ " argument " ++ quoted text ++ " too large")

/-- The number that an argument spells, which may have a sign. -/
def integerOf (what text : String) : Task Int := do
  let cs := text.toList.dropWhile isNumberBlank
  let negative := cs.head? = some '-'
  let ds := if negative || cs.head? = some '+' then cs.drop 1 else cs
  match digits? (String.ofList ds) with
  | some n =>
    let n : Int := if negative then -n else n
    if n < -(Int.pow 2 63) ∨ Int.pow 2 63 ≤ n then refuseNumber 1 what text (some .overflow)
    else pure n
  | none => refuseNumber 1 what text none

/-! ## Words -/

/-- What a word stands for among some others; it may be the start of one. `source` says where it
comes from, and `hint` is told if there is no such word. -/
def wordWith {α : Type} [DecidableEq α] (hint : String) (trouble : Nat) (source : String)
    (choices : List (List String × α)) (word : String) : Task α := do
  let all := choices.flatMap fun c => c.1.map fun name => (name, c.2)
  let refused (what : String) : Task α := do
    remark (what ++ " argument " ++ quoted word ++ " for " ++ quoted source)
    tell ("Valid arguments are:\n" ++ String.join (choices.map fun c =>
      "  - " ++ ", ".intercalate (c.1.map quoted) ++ "\n"))
    tell hint
    advise trouble
  match all.lookup word, all.filter fun c => c.1.startsWith word with
  | some value, _ => pure value
  | none, [] => refused "invalid"
  | none, (_, value) :: others =>
    if others.all fun o => o.2 = value then pure value else refused "ambiguous"

/-- What a word stands for among some others; it may be the start of one. -/
def wordOf {α : Type} [DecidableEq α] (trouble : Nat) (source : String)
    (choices : List (List String × α)) (word : String) : Task α :=
  wordWith "" trouble source choices word

end AslBuild.Tools
