import AslBuild.Act
import AslBuild.Text.CharSet
set_option autoImplicit false

/-!
# Regular expressions

An expression in one of two notations is searched for in a text. Of all places where it is found the
first one counts, and there the longest piece of text. Pieces that parts in brackets matched are
known afterwards.

## Main definitions

* `AslBuild.Text.Regex` — an expression.
* `AslBuild.Text.Regex.ends` — the places where a match may end.
* `AslBuild.Text.Regex.findFrom` — the first match from a place on.
* `AslBuild.Text.Regex.ofChars` — the expression that a text spells.
-/

namespace AslBuild.Text

/-- A condition on a place between two characters. -/
inductive Anchor
  /-- It is the start of the text. -/
  | start
  /-- It is the end of the text. -/
  | finish
  /-- A line starts there. Lines end at a character. -/
  | lineStart (mark : Char)
  /-- A line ends there. -/
  | lineEnd (mark : Char)
  /-- A word starts or ends there, or not. -/
  | wordEdge (holds : Bool)
  /-- A word starts there. -/
  | wordStart
  /-- A word ends there. -/
  | wordEnd
  /-- No character of a word is in front of it. -/
  | noWordBefore
  /-- No character of a word is behind it. -/
  | noWordAfter
deriving DecidableEq

/-- A regular expression. -/
inductive Regex
  /-- Nothing. -/
  | empty
  /-- A character with a property. -/
  | one (test : Char → Bool)
  /-- A condition on the place. -/
  | anchor (a : Anchor)
  /-- One after the other. -/
  | seq (a b : Regex)
  /-- One or the other. -/
  | alt (a b : Regex)
  /-- Several times, at least and at most so often. -/
  | times (a : Regex) (least : Nat) (most : Option Nat)
  /-- A part that has a number. -/
  | group (number : Nat) (a : Regex)
  /-- The text that the part with a number matched. -/
  | again (number : Nat)

/-- A piece of text that was found, with the pieces that its parts matched. Places are counted from
the start of the text. -/
structure Match where
  /-- Where it starts. -/
  start : Nat
  /-- Where it ends. -/
  stop : Nat
  /-- The pieces of the parts: number, start and end. The last one of a number counts. -/
  groups : List (Nat × Nat × Nat) := []

/-- The piece of a text between two places. -/
def pieceOf (cs : Array Char) (start stop : Nat) : List Char := (cs.extract start stop).toList

namespace Match

/-- Where the part with a number was found; the whole has number 0. -/
def group? (m : Match) (number : Nat) : Option (Nat × Nat) :=
  if number = 0 then some (m.start, m.stop) else m.groups.lookup number

/-- The text of the part with a number, or nothing. -/
def text (m : Match) (cs : Array Char) (number : Nat) : List Char :=
  match m.group? number with
  | some (a, b) => pieceOf cs a b
  | none => []

end Match

/-! ## Places -/

/-- Whether a character belongs to a word. -/
def isWordChar (c : Char) : Bool := c.isAlphanum || c == '_'

/-- Whether a condition holds at a place. -/
def Anchor.holds (cs : Array Char) (place : Nat) (a : Anchor) : Bool :=
  let before := place != 0 && (cs[place - 1]?).any isWordChar
  let after := (cs[place]?).any isWordChar
  match a with
  | .start => place == 0
  | .finish => place == cs.size
  | .lineStart mark => place == 0 || cs[place - 1]? == some mark
  | .lineEnd mark => place == cs.size || cs[place]? == some mark
  | .wordEdge holds => (before != after) == holds
  | .wordStart => !before && after
  | .wordEnd => before && !after
  | .noWordBefore => !before
  | .noWordAfter => !after

namespace Regex

/-- The greatest number of a part. -/
def parts : Regex → Nat
  | .group number a => max number a.parts
  | .seq a b | .alt a b => max a.parts b.parts
  | .times a _ _ => a.parts
  | _ => 0

/-! ## Where matches may end -/

/-- Two lists of places as one. -/
def union (xs ys : List Nat) : List Nat := ys.foldl (fun xs y => if xs.contains y then xs else y :: xs) xs

/-- The places that are reached from some places by steps of one kind, any number of them up to a
bound. -/
def spread (step : Nat → List Nat) : Nat → List Nat → List Nat → List Nat
  | 0, _, reached => reached
  | n + 1, latest, reached =>
    let next := (latest.foldl (fun found i => union found (step i)) []).filter fun i =>
      !reached.contains i
    if next.isEmpty then reached else spread step n next (union reached next)

/-- The places that are reached from some places by so many steps of one kind. -/
def steps (step : Nat → List Nat) : Nat → List Nat → List Nat
  | 0, places => places
  | n + 1, places => steps step n (places.foldl (fun found i => union found (step i)) [])

/-- The places at which a match that starts at a place may end. A part that repeats another one may
end anywhere. -/
def ends (cs : Array Char) : Regex → Nat → List Nat
  | .empty, i => [i]
  | .one test, i => if (cs[i]?).any test then [i + 1] else []
  | .anchor a, i => if a.holds cs i then [i] else []
  | .seq a b, i => (ends cs a i).foldl (fun found j => union found (ends cs b j)) []
  | .alt a b, i => union (ends cs a i) (ends cs b i)
  | .times a least most, i =>
    let first := steps (fun j => ends cs a j) least [i]
    spread (fun j => ends cs a j) ((most.map (· - least)).getD (cs.size + 1)) first first
  | .group _ a, i => ends cs a i
  | .again _, i => List.range (cs.size + 1 - i) |>.map (· + i)

/-! ## Matching -/

/-- The pieces that parts matched, the last one first. -/
abbrev Groups : Type := List (Nat × Nat × Nat)

/-- Repeat a step as often as possible, but not more often than allowed, and then go on. A step that
matches nothing is not repeated. -/
def repeated {α : Type} (step : Nat → Groups → (Nat → Groups → Option α) → Option α)
    (least : Nat) (most : Option Nat) (go : Nat → Groups → Option α) :
    Nat → Nat → Nat → Groups → Option α
  | 0, _, i, g => go i g
  | n + 1, count, i, g =>
    let more :=
      if most.all (count < ·) then
        step i g fun j g =>
          if j = i ∧ least ≤ count then none else repeated step least most go n (count + 1) j g
      else none
    more.or (if least ≤ count then go i g else none)

/-- Match from a place on, and go on from where the match ends. The first way that leads to a result
counts. -/
def walk {α : Type} (cs : Array Char) : Regex → Nat → Groups → (Nat → Groups → Option α) → Option α
  | .empty, i, g, go => go i g
  | .one test, i, g, go => if (cs[i]?).any test then go (i + 1) g else none
  | .anchor a, i, g, go => if a.holds cs i then go i g else none
  | .seq a b, i, g, go => walk cs a i g fun j g => walk cs b j g go
  | .alt a b, i, g, go => (walk cs a i g go).or (walk cs b i g go)
  | .times a least most, i, g, go =>
    repeated (fun j g go => walk cs a j g go) least most go (least + cs.size + 1 - i) 0 i g
  | .group n a, i, g, go => walk cs a i g fun j g => go j ((n, i, j) :: g)
  | .again n, i, g, go =>
    match g.lookup n with
    | none => none
    | some (a, b) =>
      if pieceOf cs a b == pieceOf cs i (i + (b - a)) then go (i + (b - a)) g else none

/-- The longest match that starts at a place. -/
def matchAt (r : Regex) (cs : Array Char) (i : Nat) : Option Match :=
  let places := (ends cs r i).mergeSort fun a b => b ≤ a
  places.findSome? fun stop =>
    walk cs r i [] fun j g => if j = stop then some { start := i, stop, groups := g } else none

/-- The first match that starts at one of so many places, from a place on. -/
def findUpTo (r : Regex) (cs : Array Char) : Nat → Nat → Option Match
  | 0, _ => none
  | n + 1, i =>
    match matchAt r cs i with
    | some m => some m
    | none => findUpTo r cs n (i + 1)

/-- The first match from a place on. -/
def findFrom (r : Regex) (cs : Array Char) (i : Nat) : Option Match :=
  findUpTo r cs (cs.size + 1 - i) i

/-- The first match in a text. -/
def find (r : Regex) (cs : List Char) : Option Match := findFrom r cs.toArray 0

/-- Whether an expression is found in a text. -/
def isIn (r : Regex) (cs : List Char) : Bool := (find r cs).isSome

/-- One expression after another. -/
def all (rs : List Regex) : Regex := rs.foldr .seq .empty

/-- The highest number of a part. -/
def groupCount : Regex → Nat
  | .seq a b | .alt a b => max a.groupCount b.groupCount
  | .times a _ _ => a.groupCount
  | .group n a => max n a.groupCount
  | _ => 0

/-! ## Reading -/

/-- Why a text is no expression. -/
inductive Defect
  | openSet
  | openGroup
  | closedGroup
  | openCount
  | badCount
  | trailing
  | badClass
  | badRange
  | badReference
  | badRepeat
  | badPattern
  | badCollation
  | tooBig
deriving DecidableEq

/-- The text of a defect. -/
def Defect.message : Defect → String
  | .openSet => "Unmatched [, [^, [:, [., or [="
  | .openGroup => "Unmatched ( or \\("
  | .closedGroup => "Unmatched ) or \\)"
  | .openCount => "Unmatched \\\x7b"
  | .badCount => "Invalid content of \\\x7b\\\x7d"
  | .trailing => "Trailing backslash"
  | .badClass => "Invalid character class name"
  | .badRange => "Invalid range end"
  | .badReference => "Invalid back reference"
  | .badRepeat => "Invalid preceding regular expression"
  | .badPattern => "Invalid regular expression"
  | .badCollation => "Invalid collation character"
  | .tooBig => "Regular expression too big"

/-- How an expression is written. -/
structure Spelling where
  /-- Whether signs have their meaning without a backslash. -/
  extended : Bool
  /-- Whether case does not matter. -/
  ignoresCase : Bool := false
  /-- Where lines end, if the signs for the ends of the text mean the ends of lines. -/
  byLines : Option Char := none
  /-- Whether signs that make no sense where they stand are refused. -/
  strict : Bool := false
  /-- Whether the signs for repetition have their meaning without a backslash though others have
  not. Neither counts nor names of classes are known then. -/
  loose : Bool := false

/-- The sign for the start of the text. -/
def Spelling.startSign (style : Spelling) : Regex :=
  .anchor ((style.byLines.map Anchor.lineStart).getD .start)

/-- The sign for the end of the text. -/
def Spelling.endSign (style : Spelling) : Regex :=
  .anchor ((style.byLines.map Anchor.lineEnd).getD .finish)

/-- What is left to be read, and how many groups were opened and closed. -/
structure Rest where
  /-- The characters that are left. -/
  chars : List Char
  /-- How many groups were opened. -/
  opened : Nat := 0
  /-- The groups that were closed. -/
  closed : List Nat := []
  /-- How deep groups are nested here. -/
  depth : Nat := 0

/-- A step of reading. -/
abbrev Parse (α : Type) : Type := Act Defect Rest α

/-- A character with a property; in either case if case does not matter. -/
def oneOf (style : Spelling) (test : Char → Bool) : Regex :=
  if style.ignoresCase then .one fun c => test c || test c.toLower || test c.toUpper else .one test

/-- A character that stands for itself. -/
def same (style : Spelling) (c : Char) : Regex := oneOf style (· == c)

/-- A text that stands for itself. -/
def ofLiteral (ignoresCase : Bool) (cs : List Char) : Regex :=
  all (cs.map (same { extended := false, ignoresCase }))

/-- The character between two signs in a set, the first of which was read, and what follows. -/
def symbolOf (sign : Char) : List Char → Except Defect (Char × List Char)
  | c :: cs =>
    let more := cs.takeWhile (· != sign)
    match cs.drop more.length with
    | _ :: ']' :: rest => if more.isEmpty then .ok (c, rest) else .error .badCollation
    | _ => .error .openSet
  | [] => .error .openSet

/-- The members between brackets, the opening one of which was read, and what follows the closing
one. That one stands for itself if it comes first. `named` tells whether there are names of classes.
At most so many are read. -/
def members (named : Bool) : Nat → Bool → List Char → Except Defect (List Member × List Char)
  | 0, _, _ => .error .openSet
  | _, _, [] => .error .openSet
  | n + 1, started, cs =>
    let add (m : Member) (rest : List Char) : Except Defect (List Member × List Char) :=
      (members named n true rest).map fun r => (m :: r.1, r.2)
    match started, cs with
    | true, ']' :: rest => .ok ([], rest)
    | _, '[' :: ':' :: rest =>
      if !named then add (.range '[' '[') (':' :: rest) else
      let name := rest.takeWhile Char.isAlpha
      match rest.drop name.length with
      | ':' :: ']' :: rest =>
        if (classOf? (String.ofList name)).isSome then add (.ofClass (String.ofList name)) rest
        else .error .badClass
      | _ => add (.range '[' '[') (':' :: rest)
    | _, '[' :: '=' :: rest => match symbolOf '=' rest with
      | .ok (c, rest) => add (.range c c) rest
      | .error e => .error e
    | _, '[' :: '.' :: rest => match symbolOf '.' rest with
      | .ok (c, rest) => add (.range c c) rest
      | .error e => .error e
    | _, a :: '-' :: ']' :: rest => add (.range a a) ('-' :: ']' :: rest)
    | _, a :: '-' :: b :: rest => if b < a then .error .badRange else add (.range a b) rest
    | _, a :: rest => add (.range a a) rest
    | _, [] => .error .openSet

/-- A set of characters, the opening bracket of which was read. -/
def set (style : Spelling) : Parse Regex := do
  let r ← Act.read
  let (negated, cs) := match r.chars with
    | '^' :: cs => (true, cs)
    | cs => (false, cs)
  if cs.isEmpty then Act.fail .badPattern
  let (ms, rest) ← Act.ofExcept (members (!style.loose) (cs.length + 1) false cs)
  Act.update fun r => { r with chars := rest }
  let test (c : Char) : Bool := ms.any (Member.has c)
  let test := if style.ignoresCase then fun c => test c || test c.toLower || test c.toUpper
    else test
  pure (.one fun c => test c != negated)

/-- What the letter after a backslash means, if it means more than itself. -/
def letter? (c : Char) : Option Regex :=
  match c with
  | 'w' => some (.one isWordChar)
  | 'W' => some (.one fun c => !isWordChar c)
  | 's' => some (.one fun c => c == ' ' || (0x09 ≤ c.toNat && c.toNat ≤ 0x0D))
  | 'S' => some (.one fun c => !(c == ' ' || (0x09 ≤ c.toNat && c.toNat ≤ 0x0D)))
  | 'b' => some (.anchor (.wordEdge true))
  | 'B' => some (.anchor (.wordEdge false))
  | '<' => some (.anchor .wordStart)
  | '>' => some (.anchor .wordEnd)
  | '\x60' => some (.anchor .start)
  | '\'' => some (.anchor .finish)
  | _ => none

/-- Whether a branch of an expression ends here. -/
def atBranchEnd (style : Spelling) (r : Rest) : Bool :=
  match r.chars with
  | [] => true
  | '\n' :: _ => false
  | '|' :: _ => style.extended
  | ')' :: _ => style.extended && (style.strict || r.depth != 0)
  | '\\' :: '|' :: _ => !style.extended
  | '\\' :: ')' :: _ => !style.extended
  | _ => false

/-- Go past so many characters. -/
def drop (n : Nat) : Parse Unit := Act.update fun r => { r with chars := r.chars.drop n }

/-- The rest of a group, the opening bracket of which was read. -/
def groupRest (style : Spelling) (inner : Parse Regex) : Parse Regex := do
  let number := (← Act.read).opened + 1
  Act.update fun r => { r with opened := number, depth := r.depth + 1 }
  let a ← inner
  let closes := match (← Act.read).chars with
    | ')' :: _ => style.extended
    | '\\' :: ')' :: _ => !style.extended
    | _ => false
  if closes then
    drop (if style.extended then 1 else 2)
    Act.update fun r => { r with depth := r.depth - 1, closed := number :: r.closed }
    pure (.group number a)
  else Act.fail .openGroup

/-- The highest number that tells how often something is repeated. -/
def maxCount : Nat := 32767

/-- The numbers of a count in braces, the opening one of which was read, and what follows it. -/
def countOf (style : Spelling) (cs : List Char) : Option (Nat × Option Nat × List Char) :=
  let digits (cs : List Char) : Option Nat × List Char :=
    let ds := cs.takeWhile Char.isDigit
    (if ds.isEmpty then none else (String.ofList ds).toNat?, cs.drop ds.length)
  let closed (cs : List Char) : Option (List Char) :=
    match style.extended, cs with
    | true, '\x7d' :: rest => some rest
    | false, '\\' :: '\x7d' :: rest => some rest
    | _, _ => none
  let (least, rest) := digits cs
  match least, rest with
  | _, ',' :: rest =>
    let (most, rest) := digits rest
    (closed rest).map fun rest => (least.getD 0, most, rest)
  | some n, rest => (closed rest).map fun rest => (n, some n, rest)
  | none, _ => none

/-- One item of an expression, without what says how often. `start` says that a branch starts
here. -/
def atom (style : Spelling) (inner : Parse Regex) (start : Bool) : Parse Regex := do
  let ext := style.extended
  match (← Act.read).chars with
  | [] => pure .empty
  | '\\' :: [] => Act.fail .trailing
  | '\\' :: c :: rest => do
    drop 2
    if !ext && c == '(' then groupRest style inner
    else if !ext && !style.loose && c == '\x7b' then
      if start && !style.strict then pure (same style '\x7b') else Act.fail .badRepeat
    else match letter? c with
      | some r => pure r
      | none =>
        if c.isDigit && c != '0' then
          let number := c.toNat - 48
          if (← Act.read).closed.contains number then pure (.again number)
          else Act.fail .badReference
        else
          let _ := rest
          pure (same style c)
  | '[' :: _ => do
    drop 1
    set style
  | '.' :: _ => do
    drop 1
    pure (.one fun _ => true)
  | '^' :: _ => do
    drop 1
    pure (if ext || start then style.startSign else same style '^')
  | '$' :: rest => do
    drop 1
    let final := ext || atBranchEnd style { (← Act.read) with chars := rest }
    pure (if final then style.endSign else same style '$')
  | '(' :: _ => do
    drop 1
    if ext then groupRest style inner else pure (same style '(')
  | c :: _ => do
    drop 1
    if ext && start && style.strict && c == '\x7b' then Act.fail .badRepeat
    else if ext && (c == '*' || c == '+' || c == '?') && start then
      if style.strict then Act.fail .badRepeat else pure .empty
    else if ext && c == '\x7b' && start then
      match countOf style (← Act.read).chars with
      | some (_, _, rest) => do
        Act.update fun r => { r with chars := rest }
        pure .empty
      | none => pure (same style c)
    else pure (same style c)

/-- An item with what says how often, of which at most so much is read. -/
def timesOf (style : Spelling) : Nat → Regex → Parse Regex
  | 0, a => pure a
  | n + 1, a => do
    let ext := style.extended
    let often (count : Nat) (least : Nat) (most : Option Nat) : Parse Regex := do
      drop count
      timesOf style n (.times a least most)
    let braces (skip : Nat) (cs : List Char) : Parse Regex := do
      match countOf style cs with
      | some (least, most, rest) =>
        if most.any (· < least) then Act.fail .badCount
        else if most.any (maxCount < ·) then Act.fail .tooBig
        else
          Act.update fun r => { r with chars := rest }
          timesOf style n (.times a least most)
      | none =>
        if ext && !style.strict then
          drop skip
          pure (.seq a (same style '\x7b'))
        else if cs.contains '\x7d' then Act.fail .badCount
        else Act.fail .openCount
    let again := match a with
      | .times .. => style.strict && !ext
      | _ => false
    let bare := ext || style.loose
    let sign := match (← Act.read).chars with
      | '*' :: _ => true
      | '\\' :: c :: _ => c == '+' || c == '?' || c == '\x7b'
      | _ => false
    if again && sign then Act.fail .badRepeat
    match (← Act.read).chars with
    | '*' :: _ => often 1 0 none
    | '+' :: _ => if bare then often 1 1 none else pure a
    | '?' :: _ => if bare then often 1 0 (some 1) else pure a
    | '\x7b' :: cs => if ext then braces 1 cs else pure a
    | '\\' :: '+' :: _ => if bare then pure a else often 2 1 none
    | '\\' :: '?' :: _ => if bare then pure a else often 2 0 (some 1)
    | '\\' :: '\x7b' :: cs => if bare then pure a else braces 2 cs
    | _ => pure a

/-- Whether an item is the start of the text, after which nothing can be repeated. -/
def isStart : Regex → Bool
  | .anchor .start | .anchor (.lineStart _) => true
  | _ => false

/-- The items of a branch. At most so many are read. -/
def branch (style : Spelling) (inner : Parse Regex) : Nat → Bool → Parse Regex
  | 0, _ => pure .empty
  | n + 1, start => do
    if atBranchEnd style (← Act.read) then pure .empty
    else
      let a ← atom style inner start
      let opens := isStart a && (!style.extended || style.strict)
      let a ← if opens then pure a else timesOf style (← Act.read).chars.length a
      pure (.seq a (← branch style inner n opens))

/-- The branches of an expression. At most so many are read. -/
def branches (style : Spelling) (inner : Parse Regex) : Nat → Parse Regex
  | 0 => pure .empty
  | n + 1 => do
    let a ← branch style inner ((← Act.read).chars.length + 1) true
    let another := match (← Act.read).chars with
      | '|' :: _ => style.extended
      | '\\' :: '|' :: _ => !style.extended
      | _ => false
    if another then
      drop (if style.extended then 1 else 2)
      pure (.alt a (← branches style inner n))
    else pure a

/-- An expression in which groups are nested at most so deep. -/
def nested (style : Spelling) : Nat → Parse Regex
  | 0 => pure .empty
  | n + 1 => do
    branches style (fun r => nested style n r) ((← Act.read).chars.length + 1)

/-- Whether characters between brackets look like the name of a class, but are none. -/
def looksLikeClass (inner : List Char) : Bool :=
  let inner := match inner with
    | '^' :: cs => cs
    | cs => cs
  let middle := (inner.drop 1).dropLast
  2 ≤ inner.length && inner.head? == some ':' && inner.getLast? == some ':' &&
    middle.any (· != ':') && !middle.contains '[' && !(middle.drop 1).dropLast.contains '-'

/-- Whether characters spell an expression with the name of a class where it is none. -/
def misplacesClass : Nat → List Char → Bool
  | 0, _ => false
  | _, [] => false
  | n + 1, '\\' :: cs => misplacesClass n (cs.drop 1)
  | n + 1, '[' :: cs =>
    let start := match cs with
      | '^' :: ']' :: _ => cs.take 2
      | ']' :: _ | '^' :: _ => cs.take 1
      | _ => []
    let inner := start ++ (cs.drop start.length).takeWhile (· != ']')
    if inner.contains '[' then
      match members true (cs.length + 1) false cs with
      | .ok (_, rest) => misplacesClass n rest
      | .error _ => false
    else looksLikeClass inner || misplacesClass n (cs.drop (inner.length + 1))
  | n + 1, _ :: cs => misplacesClass n cs

/-- What is said of an expression with the name of a class where it is none. -/
def misplacedClass : String := "character class syntax is [[:space:]], not [:space:]"

/-- The expression that some characters spell. -/
def ofChars (style : Spelling) (cs : List Char) : Except Defect Regex :=
  match Act.run (nested style (cs.length + 1)) { chars := cs } with
  | (.error e, _) => .error e
  | (.ok r, rest) => if rest.chars.isEmpty then .ok r else .error .closedGroup

end Regex

end AslBuild.Text
