import AslBuild.Text.CharSet
import AslBuild.Text.Escape
import AslBuild.Tools.Text
set_option autoImplicit false

/-!
# Replacing characters

The arguments of `tr` are lists of characters, in which ranges, classes and repetitions stand for
several of them.

## Main definitions

* `AslBuild.Tools.CharPart` — a part of a list of characters.
* `AslBuild.Tools.charParts` — the parts that a text spells.
* `AslBuild.Tools.casePairs` — the replacements that two lists describe.
* `AslBuild.Tools.tr` — replace or remove characters.
-/

namespace AslBuild.Tools

open FileSystem Host Text

/-! ## Lists of characters -/

/-- A part of a list of characters. -/
inductive CharPart
  /-- One character. -/
  | one (c : Char)
  /-- The characters from one to another. -/
  | range (first last : Char)
  /-- The characters of a class. -/
  | ofClass (name : String)
  /-- The characters that count as the same as one. -/
  | like (c : Char)
  /-- A character, so often or as often as needed. -/
  | times (c : Char) (count : Option Nat)
deriving DecidableEq

/-- The characters from one to another. -/
def charsBetween (a b : Char) : List Char :=
  (List.range (b.toNat + 1 - a.toNat)).map fun i => Char.ofNat (a.toNat + i)

/-- All characters of a byte. -/
def allChars : List Char := (List.range 256).map Char.ofNat

/-- A character that was written, and whether a backslash stood in front of it. -/
abbrev Written : Type := Char × Bool

/-- The characters of a text, without their backslashes, and what is to be said about those. At most
so many are read. -/
def writtenChars : Nat → List Char → List Written × List String
  | 0, _ => ([], [])
  | _, [] => ([], [])
  | n + 1, '\\' :: cs =>
    let add (c : Char) (escaped : Bool) (rest : List Char) : List Written × List String :=
      let (more, remarks) := writtenChars n rest
      ((c, escaped) :: more, remarks)
    let isOctal (c : Char) : Bool := '0' ≤ c && c ≤ '7'
    let digit (c : Char) : Nat := c.toNat - 48
    match cs with
    | [] =>
      ([('\\', false)], ["warning: an unescaped backslash at end of string is not portable"])
    | a :: b :: c :: rest =>
      if isOctal a && isOctal b && isOctal c then
        let value := (digit a * 8 + digit b) * 8 + digit c
        if value < 256 then add (Char.ofNat value) true rest
        else
          let (more, remarks) := writtenChars n (c :: rest)
          let digits := String.ofList [a, b]
          ((Char.ofNat (digit a * 8 + digit b), true) :: more,
            ("warning: the ambiguous octal escape \\" ++ digits ++ c.toString ++ " is being\n" ++
              "\tinterpreted as the 2-byte sequence \\0" ++ digits ++ ", " ++ c.toString) ::
              remarks)
      else if isOctal a && isOctal b then
        add (Char.ofNat (digit a * 8 + digit b)) true (c :: rest)
      else if isOctal a then add (Char.ofNat (digit a)) true (b :: c :: rest)
      else add ((Escape.letter? a).getD a) true (b :: c :: rest)
    | [a, b] =>
      if isOctal a && isOctal b then add (Char.ofNat (digit a * 8 + digit b)) true []
      else if isOctal a then add (Char.ofNat (digit a)) true [b]
      else add ((Escape.letter? a).getD a) true [b]
    | [a] => add (if isOctal a then Char.ofNat (digit a) else (Escape.letter? a).getD a) true []
  | n + 1, c :: cs =>
    let (more, remarks) := writtenChars n cs
    ((c, false) :: more, remarks)

/-- A character as messages show it. -/
def printableChar (c : Char) : String :=
  if 0x20 ≤ c.toNat ∧ c.toNat < 0x7F then c.toString
  else
    let ds := Nat.toDigits 8 c.toNat
    "\\" ++ String.ofList (List.replicate (3 - ds.length) '0' ++ ds)

/-- What stands in front of a sign and a closing bracket, and what follows them. -/
def upToSign (sign : Char) : List Written → Option (List Char × List Written)
  | (a, false) :: (']', false) :: rest =>
    if a = sign then some ([], rest)
    else (upToSign sign ((']', false) :: rest)).map fun r => (a :: r.1, r.2)
  | (a, _) :: rest => (upToSign sign rest).map fun r => (a :: r.1, r.2)
  | [] => none

/-- What a repetition in brackets is, of which everything behind the opening one is given: the part
and what follows it, a text that is no number, or nothing. -/
def repetition? : List Written → Option (Except String (CharPart × List Written))
  | (c, _) :: ('*', false) :: rest =>
    let inner := rest.takeWhile fun w => !w.2 && w.1 != ']'
    match rest.drop inner.length with
    | (']', false) :: after =>
      let ds := inner.map (·.1)
      let base := if ds.head? = some '0' then 8 else 10
      if ds.isEmpty then some (.ok (.times c none, after))
      else if ds.all fun d => d.isDigit && d.toNat - 48 < base then
        let n := ds.foldl (fun n d => n * base + (d.toNat - 48)) 0
        some (.ok (.times c (if n = 0 then none else some n), after))
      else some (.error (String.join (ds.map printableChar)))
    | _ => none
  | _ => none

/-- Whether a star, digits and a closing bracket stand there. -/
def hasStar : List Written → Bool
  | ('*', false) :: rest =>
    match rest.dropWhile fun w => w.1.isDigit with
    | (']', false) :: _ => true
    | _ => false
  | _ => false

/-- The parts of a list of characters, or what is wrong with it. At most so many are read. -/
def charParts : Nat → List Written → Except String (List CharPart)
  | 0, _ => .ok []
  | _, [] => .ok []
  | n + 1, (c, escaped) :: rest =>
    let opens := c = '[' && !escaped && 2 ≤ rest.length
    let plain : Except String (List CharPart) :=
      match rest with
      | ('-', false) :: (d, _) :: after =>
        if d < c then
          .error ("range-endpoints of '" ++ printableChar c ++ "-" ++ printableChar d ++
            "' are in reverse collating sequence order")
        else (charParts n after).map (.range c d :: ·)
      | _ => (charParts n rest).map (.one c :: ·)
    let repeated : Except String (List CharPart) :=
      match repetition? rest with
      | some (.ok (part, after)) => (charParts n after).map (part :: ·)
      | some (.error digits) =>
        .error ("invalid repeat count " ++ quoted digits ++ " in [c*n] construct")
      | none => plain
    if !opens then plain
    else
      let named : Option (Char × List Char × List Written) := match rest with
        | (s, false) :: more =>
          if s = ':' ∨ s = '=' then (upToSign s more).map fun r => (s, r.1, r.2) else none
        | _ => none
      match named with
      | none => repeated
      | some (sign, name, after) =>
        let shown := String.join (name.map printableChar)
        if name.isEmpty then
          .error (if sign = ':' then "missing character class name '[::]'"
            else "missing equivalence class character '[==]'")
        else if sign = ':' then
          if (classOf? (String.ofList name)).isSome then
            (charParts n after).map (.ofClass (String.ofList name) :: ·)
          else if hasStar (rest.drop 1) then repeated
          else .error ("invalid character class " ++ quoted shown)
        else match name with
          | [d] => (charParts n after).map (.like d :: ·)
          | _ =>
            if hasStar (rest.drop 1) then repeated
            else .error (shown ++ ": equivalence class operand must be a single character")

/-- The characters of a part, with those that are repeated as often as needed so often. -/
def CharPart.chars (filling : Nat) : CharPart → List Char
  | .one c | .like c => [c]
  | .range a b => charsBetween a b
  | .ofClass name => allChars.filter ((classOf? name).getD fun _ => false)
  | .times c count => List.replicate (count.getD filling) c

/-- Whether a part is a character that is repeated as often as needed. -/
def CharPart.isFilling : CharPart → Bool
  | .times _ none => true
  | _ => false

/-- Whether a part is a class. -/
def CharPart.isClass : CharPart → Bool
  | .ofClass _ => true
  | _ => false

/-- Whether a part is a class of letters of one case. -/
def CharPart.isCase : CharPart → Bool
  | .ofClass name => name == "upper" || name == "lower"
  | _ => false

/-! ## Replacements -/

/-- Where the cases of two lists meet: the characters that come before, of each list, up to the next
class of letters of one case; and then the class. -/
def uptoCase : List CharPart → List CharPart × Option (String × List CharPart)
  | [] => ([], none)
  | .ofClass name :: rest =>
    if name = "upper" ∨ name = "lower" then ([], some (name, rest))
    else
      let (front, after) := uptoCase rest
      (.ofClass name :: front, after)
  | p :: rest =>
    let (front, after) := uptoCase rest
    (p :: front, after)

/-- A character in the other case, if it is a letter of one. -/
def otherCase (c : Char) : Char := if c.isUpper then c.toLower else c.toUpper

/-- The replacements that two lists describe, and what is left of them; nothing if a class of letters
of one case does not meet another one. At most so many parts are looked at. -/
def casePairs (filling : Nat) : Nat → List CharPart → List CharPart →
    Option (List (Char × Char) × List Char × List Char)
  | 0, _, _ => none
  | n + 1, from_, to_ =>
    let (front, after) := uptoCase to_
    let wanted := front.flatMap (CharPart.chars filling)
    match after with
    | none =>
      let source := from_.flatMap (CharPart.chars 0)
      some (source.zip wanted, source.drop wanted.length, wanted.drop source.length)
    | some (name, to_) => do
      let source := from_.flatMap (CharPart.chars 0)
      if source.length < wanted.length then
        return (source.zip wanted, [], wanted.drop source.length)
      let (source, rest) ← partsOfLength wanted.length from_
      let (other, from_) ← match rest with
        | .ofClass other :: rest => if (CharPart.ofClass other).isCase then some (other, rest) else none
        | _ => none
      let letters := CharPart.chars 0 (.ofClass other)
      let pairs := letters.map fun c => (c, if other = name then c else otherCase c)
      let (more, left, further) ← casePairs filling n from_ to_
      some (source.zip wanted ++ pairs ++ more, left, further)
where
  /-- The characters of the first parts, which have to be so many, and the other parts. -/
  partsOfLength (count : Nat) : List CharPart → Option (List Char × List CharPart)
    | [] => if count = 0 then some ([], []) else none
    | p :: rest =>
      if count = 0 then some ([], p :: rest)
      else
        let cs := p.chars 0
        if cs.length ≤ count then
          (partsOfLength (count - cs.length) rest).map fun r => (cs ++ r.1, r.2)
        else none

/-- Characters without repetitions of those that are in a set. -/
def squeezed (isIn : Char → Bool) : List Char → List Char
  | [] => []
  | c :: cs =>
    match squeezed isIn cs with
    | d :: ds => if c = d && isIn c then d :: ds else c :: d :: ds
    | [] => [c]

/-! ## The tool -/

/-- The options of `tr`. -/
def trChoices : Choices where
  letters := "+AcCdst"
  words := [("complement", 'c'), ("delete", 'd'), ("squeeze-repeats", 's'), ("truncate-set1", 't')]
  ordered := true

/-- Complain about the number of lists. -/
def refuseLists (message : String) (hint : Option String) : Task Unit := do
  remark message
  tell ((hint.map (· ++ "\n")).getD "")
  advise 1

/-- The parts of a list of characters that an argument spells. -/
def listParts (text : String) : Task (List CharPart) := do
  let (written, remarks) := writtenChars (text.length + 1) text.toList
  remarks.forM remark
  match charParts (written.length + 1) written with
  | .ok parts => pure parts
  | .error problem => die 1 problem

/-- The replacements that two lists describe, where the first one may stand for all other
characters. -/
def replacements (others cuts : Bool) (from_ to_ : List CharPart) : Task (List (Char × Char)) := do
  let listed := from_.flatMap (CharPart.chars 0)
  let all := if others then allChars.filter fun c => !listed.contains c else listed
  let known := (to_.flatMap (CharPart.chars 0)).length
  let filling := all.length - known
  if 1 < (to_.filter CharPart.isFilling).length then
    die 1 "only one [c*] repeat construct may appear in string2"
  if to_.any fun p => match p with
      | .like _ => true
      | _ => false then
    die 1 "[=c=] expressions may not appear in string2 when translating"
  if to_.any fun p => p.isClass && !p.isCase then
    die 1 ("when translating, the only character classes that may appear in\n" ++
      "string2 are 'upper' and 'lower'")
  let goal := to_.flatMap (CharPart.chars filling)
  let (pairs, left) ←
    if others then pure (all.zip goal, all.drop goal.length)
    else match casePairs filling (to_.length + 1) from_ to_ with
      | some (pairs, left, _) => pure (pairs, left)
      | none => die 1 "misaligned [:upper:] and/or [:lower:] construct"
  let last := goal.getLast?.getD ' '
  if !left.isEmpty && !cuts then
    if goal.isEmpty then die 1 "when not truncating set1, string2 must be non-empty"
    if (to_.getLast?).any CharPart.isClass then
      die 1 ("when translating with string1 longer than string2,\n" ++
        "the latter string must not end with a character class")
  let size := if goal.length < all.length && !cuts then all.length else goal.length
  let uniform := size == all.length && goal.all (· == goal.headD ' ')
  if others && from_.any CharPart.isClass && !uniform then
    die 1 ("when translating with complemented character classes,\n" ++
      "string2 must map all characters in the domain to one")
  pure (pairs ++ if cuts then [] else left.map (·, last))

/-- Replace or remove characters. -/
def tr : Tool := .ofTask fun args => do
  let g ← given trChoices args
  let deletes := g.has 'd'
  let squeezes := g.has 's'
  let others := g.has 'c' || g.has 'C'
  let least := 1 + (if deletes == squeezes then 1 else 0)
  let most := 1 + (if squeezes || !deletes then 1 else 0)
  let count := g.operands.length
  if count < least then
    match g.operands.getLast? with
    | none => misuse 1 "missing operand"
    | some a =>
      refuseLists ("missing operand after " ++ quoted a) (some (if squeezes then
        "Two strings must be given when both deleting and squeezing repeats."
        else "Two strings must be given when translating."))
  if most < count then
    refuseLists ("extra operand " ++ quoted (g.operands[most]?.getD ""))
      (if count = 2 then
        some "Only one string may be given when deleting without squeezing repeats." else none)
  let from_ ← listParts (g.operands.headD "")
  let second? ← match g.operands with
    | [_, text] => do pure (some (← listParts text))
    | _ => pure none
  if from_.any CharPart.isFilling then
    die 1 "the [c*] repeat construct may not appear in string1"
  let pairs ← match second?, deletes with
    | some to_, false => replacements others (g.has 't') from_ to_
    | some to_, true =>
      if to_.any CharPart.isFilling then
        die 1 "the [c*] construct may appear in string2 only when translating"
      else pure []
    | none, _ => pure []
  let text ← match ← textOf "-" with
    | .ok text => pure text
    | .error e => die 1 ("read error: " ++ reasonOf e)
  let listed := from_.flatMap (CharPart.chars 0)
  let isFirst (c : Char) : Bool := listed.contains c != others
  let table := pairs.reverse
  let cs := text.toList
  let replaced := if deletes then cs.filter fun c => !isFirst c
    else cs.map fun c => (table.lookup c).getD c
  let filling := (if others then 256 - listed.eraseDups.length else listed.length)
  let isSqueezed (c : Char) : Bool := match second? with
    | none => isFirst c
    | some to_ =>
      let known := (to_.flatMap (CharPart.chars 0)).length
      (to_.flatMap (CharPart.chars (filling - known))).contains c
  say (String.ofList (if squeezes then squeezed isSqueezed replaced else replaced))

end AslBuild.Tools
