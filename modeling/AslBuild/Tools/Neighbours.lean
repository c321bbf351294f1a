import AslBuild.Tools.Sort.Order
import AslBuild.Tools.Text
set_option autoImplicit false

/-!
# Neighbouring lines

## Main definitions

* `AslBuild.Tools.groupsOf` — runs of lines that count as the same.
* `AslBuild.Tools.uniq` — leave out lines that are the same as the ones in front of them.
-/

namespace AslBuild.Tools

open FileSystem Host Text

/-- Runs of lines that count as the same, each with its length. -/
def groupsOf (same : String → String → Bool) : List String → List (String × List String)
  | [] => []
  | line :: lines =>
    match groupsOf same lines with
    | (first, rest) :: groups =>
      if same line first then (line, first :: rest) :: groups
      else (line, []) :: (first, rest) :: groups
    | [] => [(line, [])]

/-- Where empty lines stand between groups. -/
inductive Spacing
  /-- Nowhere. -/
  | none
  /-- In front of each. -/
  | front
  /-- Behind each. -/
  | behind
  /-- Between two of them. -/
  | between
  /-- In front of each, and behind the last. -/
  | around
deriving DecidableEq

/-- The words for empty lines between lines that are repeated. -/
def repeatedWords : List (List String × Spacing) :=
  [(["none"], .none), (["prepend"], .front), (["separate"], .between)]

/-- The words for empty lines between groups. -/
def groupWords : List (List String × Spacing) :=
  [(["prepend"], .front), (["append"], .behind), (["separate"], .between), (["both"], .around)]

/-- Groups with empty lines between them. -/
def Spacing.lines (s : Spacing) (groups : List (List String)) : List String :=
  match s with
  | .none => groups.flatten
  | .front => groups.flatMap ("" :: ·)
  | .behind => groups.flatMap (· ++ [""])
  | .between => (groups.flatMap ("" :: ·)).drop 1
  | .around => groups.flatMap ("" :: ·) ++ if groups.isEmpty then [] else [""]

/-- The options of `uniq`. -/
def uniqChoices : Choices where
  letters := "0123456789cdDf:is:uw:z"
  words := [("count", 'c'), ("repeated", 'd'), ("all-repeated::", 'A'), ("group::", 'g'),
    ("ignore-case", 'i'), ("unique", 'u'), ("skip-fields", 'f'), ("skip-chars", 's'),
    ("check-chars", 'w'), ("zero-terminated", 'z')]

/-- What part of lines is compared. -/
structure Compared where
  /-- How many fields in front do not count. -/
  fields : Nat := 0
  /-- How many characters behind those do not count. -/
  chars : Nat := 0
  /-- How many characters behind those count. -/
  most : Option Nat := none
  /-- Whether large and small letters are alike. -/
  folds : Bool := false

/-- The part of a line that counts. -/
def Compared.part (k : Compared) (line : String) : List Char :=
  let cs := (behindFields none k.fields line.toList).drop k.chars
  let cs := match k.most with
    | some n => cs.take n
    | none => cs
  if k.folds then cs.map Char.toLower else cs

/-- The number that an argument spells. `what` says what it is good for. -/
def uniqNumber (what text : String) : Task Nat := do
  match amount? "" text with
  | .ok n => pure n
  | .error .tooLarge => pure maxAmount
  | .error _ => die 1 (quotedIfOdd text ++ ": invalid number of " ++ what)

/-- What part of lines is compared, as options ask for it. -/
def comparedOf (g : Given) : Task Compared := do
  let last (c : Char) (what : String) : Task (Option Nat) := do
    pure (← (g.values c).mapM (uniqNumber what)).getLast?
  let digits := String.ofList ((g.options.map (·.1)).filter Char.isDigit)
  let fields ← last 'f' "fields to skip"
  let chars ← last 's' "bytes to skip"
  let most ← last 'w' "bytes to compare"
  pure
    { fields := (fields.or (digits? digits)).getD 0
      chars := chars.getD 0
      most
      folds := g.has 'i' }

/-- Leave out lines that are the same as the ones in front of them. -/
def uniq : Tool := .ofTask fun args => do
  let g ← given uniqChoices args
  let repeats ← (g.options.filter fun o => o.1 == 'A' || o.1 == 'D').mapM fun o => do
    if o.2.isEmpty then pure Spacing.none else wordOf 1 "--all-repeated" repeatedWords o.2
  let grouped ← (g.values 'g').mapM fun word => do
    if word.isEmpty then pure Spacing.between else wordOf 1 "--group" groupWords word
  let k ← comparedOf g
  let (older, operands) := g.operands.partition fun a => a.startsWith "+" &&
    (digits? (a.drop 1).toString).isSome
  let k := match older.getLast?.bind fun a => digits? (a.drop 1).toString with
    | some chars => { k with chars }
    | none => k
  match operands with
  | _ :: _ :: extra :: _ => misuse 1 ("extra operand " ++ quoted extra)
  | _ => pure ()
  if !grouped.isEmpty && (['c', 'd', 'D', 'u', 'A'].any g.has) then
    misuse 1 "--group is mutually exclusive with -c/-d/-D/-u"
  if g.has 'c' && !repeats.isEmpty then
    misuse 1 "printing all duplicated lines and repeat counts is meaningless"
  let source := operands.headD "-"
  let text ← match ← textOf source with
    | .ok text => pure text
    | .error e =>
      if e = .os .isDirectory then die 1 ("error reading " ++ quoted source ++ ": " ++ reasonOf e)
      else die 1 (plainMessage source e)
  let mark := if g.has 'z' then "\x00" else "\n"
  let pieces := text.splitOn mark
  let lines := if pieces.getLast? = some "" then pieces.dropLast else pieces
  let groups := groupsOf (fun a b => k.part a == k.part b) lines
  let isRepeated (r : String × List String) : Bool := !r.2.isEmpty
  let count (r : String × List String) : String :=
    if g.has 'c' then padLeft 7 (toString (r.2.length + 1)) ++ " " else ""
  let whole (r : String × List String) : List String := r.1 :: r.2
  let shown := match grouped.getLast?, repeats.getLast? with
    | some spacing, _ => spacing.lines (groups.map whole)
    | none, some spacing =>
      let repeated := (groups.filter isRepeated).map whole
      spacing.lines (if g.has 'u' then repeated.map List.dropLast else repeated)
    | none, none =>
      let kept := groups.filter fun r =>
        (!g.has 'u' || !isRepeated r) && (!g.has 'd' || isRepeated r)
      kept.map fun r => count r ++ r.1
  let out := String.join (shown.map (· ++ mark))
  match operands with
  | [_, path] => do
    match ← onMachine fun p => openPath p path .write with
    | .error e => die 1 (plainMessage path e)
    | .ok channel =>
      let _ ← onMachine fun p => writeTo (p.setChannel 10 (some channel)) 10 (Raw.toBytes out)
  | _ => say out

end AslBuild.Tools
