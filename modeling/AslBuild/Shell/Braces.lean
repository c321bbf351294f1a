import AslBuild.Shell.State
set_option autoImplicit false

/-!
# Braces

In the language with extensions, braces around alternatives, or around a range, make several words
out of one.

## Main definitions

* `AslBuild.Shell.bracesOf` — the words that a word stands for.
-/

namespace AslBuild.Shell

/-! ## Braces -/

/-- A piece of a word: a character that is not quoted, or anything else. -/
inductive Piece
  | char (c : Char)
  | part (p : Part)

/-- The pieces of a word. -/
def piecesOf (w : Word) : List Piece :=
  w.flatMap fun p =>
    match p with
    | .text cs false => cs.map .char
    | p => [.part p]

/-- The word of some pieces. -/
def wordOf (ps : List Piece) : Word :=
  ps.map fun p =>
    match p with
    | .char c => .text [c] false
    | .part p => p

/-- The alternatives in braces, the opening one of which was read, and what follows the closing one.
-/
def alternatives : Nat → List Piece → List Piece → List (List Piece) →
    Option (List (List Piece) × List Piece)
  | _, _, [], _ => none
  | depth, current, .char c :: ps, ended =>
    if c = '\x7d' then
      match depth with
      | 0 => some ((current.reverse :: ended).reverse, ps)
      | depth + 1 => alternatives depth (.char c :: current) ps ended
    else if c = '\x7b' then alternatives (depth + 1) (.char c :: current) ps ended
    else if c = ',' ∧ depth = 0 then alternatives 0 [] ps (current.reverse :: ended)
    else alternatives depth (.char c :: current) ps ended
  | depth, current, p :: ps, ended => alternatives depth (p :: current) ps ended
termination_by _ _ ps => ps.length

/-- The items of a range from one number, or letter, to another. -/
def rangeItems (cs : List Char) : Option (List String) :=
  let text := String.ofList cs
  let isPadded (a : String) : Bool :=
    let ds := if a.startsWith "-" then (a.drop 1).toString else a
    ds.startsWith "0" && 1 < ds.length
  let padded (width : Nat) (n : Int) : String :=
    let ds := toString n.natAbs
    let sign := if n < 0 then "-" else ""
    sign ++ String.ofList (List.replicate (width - sign.length - ds.length) '0') ++ ds
  let between (a b step : Int) : List Int :=
    let step := if step = 0 then 1 else step.natAbs
    (List.range ((b - a).natAbs / step + 1)).map fun i =>
      if a ≤ b then a + Int.ofNat (step * i) else a - Int.ofNat (step * i)
  let numbers (from_ to_ step : String) : Option (List String) := do
    let a ← from_.toInt?
    let b ← to_.toInt?
    let step ← step.toInt?
    let width := if isPadded from_ || isPadded to_ then max from_.length to_.length else 0
    some ((between a b step).map (padded width))
  let letters (a b : Char) : List String :=
    (between a.toNat b.toNat 1).map fun n => (Char.ofNat n.toNat).toString
  match text.splitOn ".." with
  | [a, b] =>
    match numbers a b "1" with
    | some items => some items
    | none =>
      match a.toList, b.toList with
      | [x], [y] => if x.isAlpha && y.isAlpha then some (letters x y) else none
      | _, _ => none
  | [a, b, step] => numbers a b step
  | _ => none

/-- The words that a word with alternatives in braces stands for. At most so many braces are looked
at. -/
def braceWords : Nat → List Piece → List Piece → List (List Piece)
  | 0, before, ps => [before.reverse ++ ps]
  | _, before, [] => [before.reverse]
  | n + 1, before, .char '\x7b' :: ps =>
    match alternatives 0 [] ps [] with
    | some ([only], rest) =>
      let text := only.filterMap fun p => match p with
        | .char c => some c
        | .part _ => none
      match if text.length = only.length then rangeItems text else none with
      | some items =>
        items.flatMap fun i => braceWords n [] rest |>.map fun w =>
          before.reverse ++ i.toList.map .char ++ w
      | none => braceWords n (.char '\x7b' :: before) ps
    | some (choices, rest) =>
      choices.flatMap fun choice => (braceWords n [] choice).flatMap fun c =>
        (braceWords n [] rest).map fun w => before.reverse ++ c ++ w
    | none => braceWords n (.char '\x7b' :: before) ps
  | n + 1, before, p :: ps => braceWords n (p :: before) ps

/-- The words that a word stands for before it is expanded. -/
def bracesOf (s : State) (w : Word) : List Word :=
  let hasBrace := w.any fun p =>
    match p with
    | .text cs false => cs.contains '\x7b'
    | _ => false
  if s.extended && hasBrace then
    let ps := piecesOf w
    (braceWords (ps.length + 1) [] ps).map wordOf
  else [w]

end AslBuild.Shell
