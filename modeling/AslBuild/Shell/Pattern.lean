import AslBuild.Text.CharSet
set_option autoImplicit false

/-!
# Patterns

In a pattern, an asterisk stands for any text, a question mark for any character, and brackets for
one of several characters. What is quoted stands for itself, and so does what follows a backslash.
Patterns in parentheses, behind a sign, may stand for parts of a text that fit one of them.

## Main definitions

* `AslBuild.Shell.Glob` — one item of a pattern.
* `AslBuild.Shell.globs` — the items of a pattern.
* `AslBuild.Shell.fits` — whether a text fits a pattern.
-/

namespace AslBuild.Shell

open Text

/-! ## Items -/

/-- One item of a pattern. -/
inductive Glob
  /-- Any text. -/
  | any
  /-- Any character. -/
  | one
  /-- A character that stands for itself. -/
  | char (c : Char)
  /-- A character in brackets, or one that is not. -/
  | set (negated : Bool) (members : List Member)
  /-- One of several patterns, as often as a sign says; or whatever fits none of them. -/
  | group (sign : Char) (choices : List (List Glob))

/-- How patterns are spelled. -/
structure GlobStyle where
  /-- Whether a second mark turns brackets round. -/
  extended : Bool := false
  /-- Whether there are patterns in parentheses. -/
  groups : Bool := false
  /-- Whether small and large letters are the same. -/
  folds : Bool := false

/-- The name of a class, of which the opening bracket and colon were read, and what follows it. -/
def readClass (cs : List (Char × Bool)) : Option (String × List (Char × Bool)) :=
  let name := cs.takeWhile fun c => c.1.isAlpha
  match cs.drop name.length with
  | (':', false) :: (']', false) :: rest =>
    let name := String.ofList (name.map (·.1))
    (classOf? name).map fun _ => (name, rest)
  | _ => none

/-- The members in brackets, the opening one of which was read, and what follows the closing one.
The closing bracket stands for itself if it comes first. At most so many are read. -/
def readSet : Nat → Bool → List (Char × Bool) → Option (List Member × List (Char × Bool))
  | 0, _, _ => none
  | _, _, [] => none
  | n + 1, started, cs =>
    let add (m : Member) (rest : List (Char × Bool)) : Option (List Member × List (Char × Bool)) :=
      (readSet n true rest).map fun r => (m :: r.1, r.2)
    match started, cs with
    | true, (']', false) :: rest => some ([], rest)
    | _, ('[', false) :: (':', false) :: rest =>
      match readClass rest with
      | some (name, rest) => add (.ofClass name) rest
      | none => add (.range '[' '[') ((':', false) :: rest)
    | _, ('\\', false) :: (a, _) :: rest => add (.range a a) rest
    | _, (a, _) :: ('-', false) :: (b, quoted) :: rest =>
      if b = ']' ∧ quoted = false then add (.range a a) (('-', false) :: (b, quoted) :: rest)
      else add (.range a b) rest
    | _, (a, _) :: rest => add (.range a a) rest
    | _, [] => none

/-- The characters that may stand in front of patterns in parentheses. -/
def groupSigns : List Char := ['?', '*', '+', '@', '!']

/-- Add a character to the first of some choices. -/
def withFirst (c : Char × Bool) : List (List (Char × Bool)) → List (List (Char × Bool))
  | [] => [[c]]
  | choice :: choices => (c :: choice) :: choices

/-- The choices in parentheses, the opening one of which was read, and what follows the closing one.
So many parentheses are open inside of these. -/
def cutChoices : Nat → List (Char × Bool) → Option (List (List (Char × Bool)) × List (Char × Bool))
  | _, [] => none
  | 0, (')', false) :: cs => some ([[]], cs)
  | 0, ('|', false) :: cs => (cutChoices 0 cs).map fun r => ([] :: r.1, r.2)
  | depth, c :: cs =>
    let depth := if c == ('(', false) then depth + 1 else if c == (')', false) then depth - 1
      else depth
    (cutChoices depth cs).map fun r => (withFirst c r.1, r.2)

/-- The item that stands for a character itself. -/
def charGlob (style : GlobStyle) (c : Char) : Glob :=
  if style.folds && c.isAlpha then
    .set false [.range c.toLower c.toLower, .range c.toUpper c.toUpper]
  else .char c

/-- The members in brackets, those with the letters of the other case among them if those are the
same. -/
def foldMembers (style : GlobStyle) (members : List Member) : List Member :=
  if !style.folds then members
  else members.flatMap fun m =>
    match m with
    | .range a b =>
      if a.isLower && b.isLower then [m, .range a.toUpper b.toUpper]
      else if a.isUpper && b.isUpper then [m, .range a.toLower b.toLower]
      else [m]
    | .ofClass name =>
      if name = "upper" ∨ name = "lower" then [.ofClass "alpha"] else [.ofClass name]

/-- The items of a pattern, each character of which is quoted or not. At most so many are read. -/
def globsUpTo (style : GlobStyle) : Nat → List (Char × Bool) → List Glob
  | 0, _ => []
  | _, [] => []
  | n + 1, (c, quoted) :: cs =>
    let literal (_ : Unit) : List Glob :=
      match c, quoted, cs with
      | '*', false, cs => .any :: globsUpTo style n cs
      | '?', false, cs => .one :: globsUpTo style n cs
      | '\\', false, (d, _) :: cs => charGlob style d :: globsUpTo style n cs
      | '[', false, cs =>
        let (negated, members) := match cs with
          | (d, false) :: rest =>
            if d = '!' ∨ (d = '^' ∧ style.extended) then (true, rest) else (false, cs)
          | _ => (false, cs)
        match readSet (members.length + 1) false members with
        | some (members, rest) =>
          .set negated (foldMembers style members) :: globsUpTo style n rest
        | none => .char '[' :: globsUpTo style n cs
      | c, _, cs => charGlob style c :: globsUpTo style n cs
    match if style.groups && !quoted && groupSigns.contains c then cs else [] with
    | ('(', false) :: inside =>
      match cutChoices 0 inside with
      | some (choices, rest) => .group c (choices.map (globsUpTo style n)) :: globsUpTo style n rest
      | none => literal ()
    | _ => literal ()

/-- The items of a pattern, each character of which is quoted or not. -/
def globs (style : GlobStyle) (cs : List (Char × Bool)) : List Glob :=
  globsUpTo style (cs.length + 1) cs

/-- Whether some characters, each of which is quoted or not, are more than text as it stands. -/
def isPattern (groups : Bool) : List (Char × Bool) → Bool
  | [] => false
  | (c, quoted) :: cs =>
    (!quoted && (c == '*' || c == '?' || c == '[' ||
      (groups && groupSigns.contains c && cs.head? == some ('(', false)))) || isPattern groups cs

/-! ## Fitting -/

/-- All parts of a text that it ends with. -/
def endings {α : Type} : List α → List (List α)
  | [] => [[]]
  | c :: cs => (c :: cs) :: endings cs

/-- Ends of one text, longer ones first, as one list. -/
def mergeEnds : List (List Char) → List (List Char) → List (List Char)
  | [], ys => ys
  | xs, [] => xs
  | x :: xs, y :: ys =>
    if x.length = y.length then x :: mergeEnds xs ys
    else if y.length < x.length then x :: mergeEnds xs (y :: ys)
    else y :: mergeEnds (x :: xs) ys
termination_by xs ys => xs.length + ys.length

/-- What can be left of texts after a step has been done any number of times, at most so many. -/
def repeated (step : List (List Char) → List (List Char)) :
    Nat → List (List Char) → List (List Char)
  | 0, ends => ends
  | n + 1, ends => mergeEnds ends (repeated step n (step ends))

mutual

/-- What can be left of some ends of a text, longer ones first, behind parts that fit a pattern. -/
def leftBehind : List Glob → List (List Char) → List (List Char)
  | [], ends => ends
  | g :: p, ends => leftBehind p (leftBehindOne g ends)

/-- What can be left of some ends of a text behind parts that fit an item of a pattern. -/
def leftBehindOne : Glob → List (List Char) → List (List Char)
  | .any, ends => (ends.head?.map endings).getD []
  | .one, ends => (ends.filter (!·.isEmpty)).map List.tail
  | .char d, ends => (ends.filter fun cs => cs.head? == some d).map List.tail
  | .set negated members, ends =>
    (ends.filter fun cs => cs.head?.any fun c => members.any (·.has c) != negated).map List.tail
  | .group sign choices, ends =>
    let once (ends : List (List Char)) : List (List Char) := leftBehindAny choices ends
    let times := (ends.head?.map List.length).getD 0
    match sign with
    | '?' => mergeEnds ends (once ends)
    | '*' => repeated once times ends
    | '+' => repeated once times (once ends)
    | '!' =>
      ends.foldr (fun cs others =>
        let fitting := once [cs]
        mergeEnds ((endings cs).filter fun e => !fitting.any fun f => f.length == e.length) others)
        []
    | _ => once ends

/-- What can be left of some ends of a text behind parts that fit one of several patterns. -/
def leftBehindAny : List (List Glob) → List (List Char) → List (List Char)
  | [], _ => []
  | p :: ps, ends => mergeEnds (leftBehind p ends) (leftBehindAny ps ends)

end

/-- Whether a text fits a pattern. -/
def fits (p : List Glob) (cs : List Char) : Bool :=
  (leftBehind p [cs]).any List.isEmpty

/-- What follows the shortest or the longest part at the start of a text that fits a pattern. -/
def behind? (longest : Bool) (p : List Glob) (cs : List Char) : Option (List Char) :=
  let ends := leftBehind p [cs]
  if longest then ends.getLast? else ends.head?

/-- Cut the shortest or the longest part that fits a pattern off the start of a text. -/
def cutStart (longest : Bool) (p : List Glob) (cs : List Char) : List Char :=
  (behind? longest p cs).getD cs

/-- What stands in front of the shortest or the longest part at the end of a text that fits a
pattern, and that part. -/
def finish? (longest : Bool) (p : List Glob) (cs : List Char) :
    Option (List Char × List Char) :=
  let all := List.range (cs.length + 1)
  ((if longest then all else all.reverse).find? fun n => fits p (cs.drop n)).map fun n =>
    (cs.take n, cs.drop n)

/-- Cut the shortest or the longest part that fits a pattern off the end of a text. -/
def cutEnd (longest : Bool) (p : List Glob) (cs : List Char) : List Char :=
  ((finish? longest p cs).map (·.1)).getD cs

/-- Replace the parts of a text that fit a pattern, one behind the other, or only the first. At most
so many steps are made. -/
def replaceIn (all : Bool) (p : List Glob) (by_ : List Char → List Char) :
    Nat → List Char → List Char
  | 0, cs => cs
  | n + 1, cs =>
    match (behind? true p cs).filter fun rest => rest.length != cs.length with
    | some rest =>
      by_ (cs.take (cs.length - rest.length)) ++ if all then replaceIn all p by_ n rest else rest
    | none =>
      match cs with
      | [] => []
      | c :: cs => c :: replaceIn all p by_ n cs

/-- What a part that fits is replaced by, each character of which is quoted or not: an ampersand that
is not quoted stands for the part itself. -/
def replacementFor (by_ : List (Char × Bool)) (part : List Char) : List Char :=
  match by_ with
  | [] => []
  | ('&', false) :: rest => part ++ replacementFor rest part
  | [c] => [c.1]
  | ('\\', false) :: (d, quoted) :: rest =>
    if d = '&' ∨ d = '\\' then d :: replacementFor rest part
    else '\\' :: replacementFor ((d, quoted) :: rest) part
  | (c, _) :: d :: rest => c :: replacementFor (d :: rest) part
termination_by by_.length

end AslBuild.Shell
