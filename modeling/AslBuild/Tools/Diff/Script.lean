set_option autoImplicit false

/-!
# Where two lists of lines differ

What differs between two lists of lines is told by *hunks*: runs of lines of either list that are not
in the other one, between lines that both have. There are many ways to choose the lines that both
have; the one that is taken here finds the middle of a shortest way from both ends at once, and then
moves runs of lines as far down as that makes no difference.

## Main definitions

* `AslBuild.Tools.Diff.Hunk` — a run of lines of either list.
* `AslBuild.Tools.Diff.unmatched` — the lines of two lists that have no partners.
* `AslBuild.Tools.Diff.settled` — the same lines, moved as far down as possible.
* `AslBuild.Tools.Diff.hunks` — where two lists differ.
-/

namespace AslBuild.Tools.Diff

/-- A run of lines of two lists that the other one does not have, behind so many lines of either. -/
structure Hunk where
  /-- How many lines of the first list are in front of it. -/
  before : Nat
  /-- The lines of the first list. -/
  left : List String
  /-- How many lines of the second list are in front of it. -/
  beforeRight : Nat
  /-- The lines of the second list. -/
  right : List String

/-! ## The middle of a shortest way

A way leads through pairs of numbers of lines, from the start of both lists to their ends. On a
diagonal the difference of the two numbers stays the same. -/

/-- How far the first list was followed on every diagonal, and which diagonals were reached. -/
structure Front where
  /-- The places, by the number of the diagonal. -/
  places : Array Int
  /-- The number of the diagonal that comes first in the places. -/
  shift : Int
  /-- The lowest diagonal that was reached. -/
  low : Int
  /-- The highest diagonal that was reached. -/
  high : Int

/-- How far the first list was followed on a diagonal. -/
def Front.at (f : Front) (d : Int) : Int := f.places.getD (d - f.shift).toNat 0

/-- Set how far the first list was followed on a diagonal. -/
def Front.set (f : Front) (d place : Int) : Front :=
  { f with places := f.places.setIfInBounds (d - f.shift).toNat place }

/-- The part of two lists that is compared, by numbers of lines: from one to another of the first
list, and of the second list. -/
structure Area where
  xlow : Nat
  xhigh : Nat
  ylow : Nat
  yhigh : Nat

/-- Take one more diagonal at either end, or one less where there is no other one. What is put behind
the ends leads nowhere. -/
def Front.widen (f : Front) (least most nowhere : Int) : Front :=
  let f := if least < f.low then { f.set (f.low - 2) nowhere with low := f.low - 1 }
    else { f with low := f.low + 1 }
  if f.high < most then { f.set (f.high + 2) nowhere with high := f.high + 1 }
  else { f with high := f.high - 1 }

/-- Follow lines that are the same, forwards, at most so many. -/
def follow (same : Nat → Nat → Bool) (a : Area) (d : Int) : Nat → Int → Int
  | 0, x => x
  | n + 1, x =>
    if x < a.xhigh ∧ x - d < a.yhigh ∧ same x.toNat (x - d).toNat then follow same a d n (x + 1)
    else x

/-- Follow lines that are the same, backwards, at most so many. -/
def followBack (same : Nat → Nat → Bool) (a : Area) (d : Int) : Nat → Int → Int
  | 0, x => x
  | n + 1, x =>
    if a.xlow < x ∧ a.ylow < x - d ∧ same (x - 1).toNat (x - d - 1).toNat then
      followBack same a d n (x - 1)
    else x

/-- One step on every other diagonal from one downwards, so many of them, until the fronts meet: the
place where they meet, or the front afterwards. -/
def advance (go : Int → Int → Int) (start : Int → Int → Int) (meets : Int → Int → Bool) :
    Nat → Int → Front → Except (Int × Int) Front
  | 0, _, f => .ok f
  | n + 1, d, f =>
    let x := go d (start (f.at (d - 1)) (f.at (d + 1)))
    if meets d x then .error (x, x - d)
    else advance go start meets n (d - 2) (f.set d x)

/-- The middle of a shortest way, which at most so many steps from either end lead to. -/
def middleFrom (same : Nat → Nat → Bool) (a : Area) : Nat → Front → Front → Option (Int × Int)
  | 0, _, _ => none
  | n + 1, forth, back =>
    let least : Int := a.xlow - a.yhigh
    let most : Int := a.xhigh - a.ylow
    let size := a.xhigh - a.xlow + (a.yhigh - a.ylow) + 1
    let odd := (((a.xlow : Int) - a.ylow - (a.xhigh - a.yhigh)) % 2) != 0
    let forth := forth.widen least most (-1)
    let met := advance (fun d => follow same a d size)
      (fun low high => if low < high then high else low + 1)
      (fun d x => odd && back.low ≤ d && d ≤ back.high && back.at d ≤ x)
      (((forth.high - forth.low) / 2 + 1).toNat) forth.high forth
    match met with
    | .error place => some place
    | .ok forth =>
      let back := back.widen least most (Int.pow 2 62)
      let met := advance (fun d => followBack same a d size)
        (fun low high => if low < high then low else high - 1)
        (fun d x => !odd && forth.low ≤ d && d ≤ forth.high && x ≤ forth.at d)
        (((back.high - back.low) / 2 + 1).toNat) back.high back
      match met with
      | .error place => some place
      | .ok back => middleFrom same a n forth back

/-- The middle of a shortest way. -/
def middle (same : Nat → Nat → Bool) (a : Area) : Option (Int × Int) :=
  let least : Int := a.xlow - a.yhigh
  let size := a.xhigh - a.xlow + (a.yhigh - a.ylow)
  let front (d place : Int) : Front :=
    (Front.mk (Array.replicate (size + 5) 0) (least - 2) d d).set d place
  middleFrom same a (size + 1) (front ((a.xlow : Int) - a.ylow) a.xlow)
    (front ((a.xhigh : Int) - a.yhigh) a.xhigh)

/-! ## Lines without partners -/

/-- An area without lines at its start that are the same. At most so many are left out. -/
def Area.withoutStart (same : Nat → Nat → Bool) : Nat → Area → Area
  | 0, a => a
  | n + 1, a =>
    if a.xlow < a.xhigh ∧ a.ylow < a.yhigh ∧ same a.xlow a.ylow then
      Area.withoutStart same n { a with xlow := a.xlow + 1, ylow := a.ylow + 1 }
    else a

/-- An area without lines at its end that are the same. At most so many are left out. -/
def Area.withoutEnd (same : Nat → Nat → Bool) : Nat → Area → Area
  | 0, a => a
  | n + 1, a =>
    if a.xlow < a.xhigh ∧ a.ylow < a.yhigh ∧ same (a.xhigh - 1) (a.yhigh - 1) then
      Area.withoutEnd same n { a with xhigh := a.xhigh - 1, yhigh := a.yhigh - 1 }
    else a

/-- The numbers from one up to another. -/
def numbersBetween (low high : Nat) : List Nat := (List.range (high - low)).map (· + low)

/-- The numbers of the lines of either list that have no partners, in an area that is cut at most so
often. -/
def unmatched (same : Nat → Nat → Bool) : Nat → Area → List Nat × List Nat
  | 0, a => (numbersBetween a.xlow a.xhigh, numbersBetween a.ylow a.yhigh)
  | n + 1, a =>
    let a := a.withoutStart same (a.xhigh - a.xlow)
    let a := a.withoutEnd same (a.xhigh - a.xlow)
    if a.xlow = a.xhigh ∨ a.ylow = a.yhigh then
      (numbersBetween a.xlow a.xhigh, numbersBetween a.ylow a.yhigh)
    else match middle same a with
      | none => (numbersBetween a.xlow a.xhigh, numbersBetween a.ylow a.yhigh)
      | some (x, y) =>
        let (xs, ys) := unmatched same n { a with xhigh := x.toNat, yhigh := y.toNat }
        let (us, vs) := unmatched same n { a with xlow := x.toNat, ylow := y.toNat }
        (xs ++ us, ys ++ vs)

/-! ## Moving runs of lines -/

/-- Whether a line has a mark. -/
def isMarked (marks : Array Bool) (i : Int) : Bool := 0 ≤ i && marks.getD i.toNat false

/-- Give a line a mark, or take it. -/
def setMark (marks : Array Bool) (i : Int) (value : Bool) : Array Bool :=
  marks.setIfInBounds i.toNat value

/-- The first line without a mark from a line on, of at most so many. -/
def upFrom (marks : Array Bool) : Nat → Int → Int
  | 0, i => i
  | n + 1, i => if isMarked marks i then upFrom marks n (i + 1) else i

/-- The first line without a mark from a line on upwards, of at most so many. -/
def downFrom (marks : Array Bool) : Nat → Int → Int
  | 0, i => i
  | n + 1, i => if isMarked marks i then downFrom marks n (i - 1) else i

/-- A run of lines with marks: the marks, its first line, the line behind it, the line of the other
list that belongs to that one, and the last line behind a run that belongs to one of the other
list. -/
structure MovedRun where
  marks : Array Bool
  start : Int
  stop : Int
  partner : Int
  matching : Int

/-- Move a run up as long as the line in front of it is the same as its last one, at most so often. -/
def MovedRun.up (same : Int → Int → Bool) (other : Array Bool) : Nat → MovedRun → MovedRun
  | 0, r => r
  | n + 1, r =>
    if 0 < r.start ∧ same (r.start - 1) (r.stop - 1) then
      let marks := setMark (setMark r.marks (r.start - 1) true) (r.stop - 1) false
      MovedRun.up same other n
        { r with
          marks
          start := downFrom marks marks.size (r.start - 2) + 1
          stop := r.stop - 1
          partner := downFrom other other.size (r.partner - 1) }
    else r

/-- Move a run down as long as the line behind it is the same as its first one, at most so often. -/
def MovedRun.down (same : Int → Int → Bool) (other : Array Bool) : Nat → MovedRun → MovedRun
  | 0, r => r
  | n + 1, r =>
    if r.stop ≠ r.marks.size ∧ same r.start r.stop then
      let marks := setMark (setMark r.marks r.start false) r.stop true
      let stop := upFrom marks marks.size (r.stop + 1)
      let partner := upFrom other other.size (r.partner + 1)
      MovedRun.down same other n
        { marks, start := r.start + 1, stop, partner
          matching := if r.partner + 1 < partner then stop else r.matching }
    else r

/-- Move a run up and down until it does not grow any more, at most so often. -/
def MovedRun.grow (same : Int → Int → Bool) (other : Array Bool) : Nat → MovedRun → MovedRun
  | 0, r => r
  | n + 1, r =>
    let length := r.stop - r.start
    let r := r.up same other r.marks.size
    let r := { r with
      matching := if isMarked other (r.partner - 1) then r.stop else r.marks.size }
    let r := r.down same other r.marks.size
    if length = r.stop - r.start then r else MovedRun.grow same other n r

/-- Move a run up to where a run of the other list belongs to it, at most so far. -/
def MovedRun.back (other : Array Bool) : Nat → MovedRun → MovedRun
  | 0, r => r
  | n + 1, r =>
    if r.matching < r.stop then
      MovedRun.back other n
        { r with
          marks := setMark (setMark r.marks (r.start - 1) true) (r.stop - 1) false
          start := r.start - 1
          stop := r.stop - 1
          partner := downFrom other other.size (r.partner - 1) }
    else r

/-- The first line with a mark from a line on, and the line of the other list that belongs to it. At
most so many are looked at. -/
def nextRun (marks other : Array Bool) : Nat → Int → Int → Int × Int
  | 0, i, j => (i, j)
  | n + 1, i, j =>
    if i < marks.size ∧ !isMarked marks i then
      nextRun marks other n (i + 1) (upFrom other other.size j + 1)
    else (i, j)

/-- Move all runs from a line on, at most so many. -/
def settledFrom (same : Int → Int → Bool) (other : Array Bool) :
    Nat → Int → Int → Array Bool → Array Bool
  | 0, _, _, marks => marks
  | n + 1, i, j, marks =>
    let (start, j) := nextRun marks other marks.size i j
    if marks.size ≤ start then marks
    else
      let r : MovedRun :=
        { marks, start
          stop := upFrom marks marks.size start
          partner := upFrom other other.size j
          matching := marks.size }
      let r := (r.grow same other (marks.size + 1)).back other marks.size
      settledFrom same other n r.stop r.partner r.marks

/-- Runs of lines with marks in one list, moved as far down as that makes no difference, but not
behind a run of the other list that belongs to them. -/
def settled (same : Int → Int → Bool) (other marks : Array Bool) : Array Bool :=
  settledFrom same other (marks.size + 1) 0 0 marks

/-! ## Hunks -/

/-- Marks for the lines of some numbers. -/
def marksOf (size : Nat) (numbers : List Nat) : Array Bool :=
  numbers.foldl (fun marks i => marks.setIfInBounds i true) (Array.replicate size false)

/-- The hunks from a line of either list on, given the marks; at most so many lines are looked at. -/
def hunksOf (as bs : Array String) (left right : Array Bool) : Nat → Nat → Nat → List Hunk
  | 0, _, _ => []
  | n + 1, i, j =>
    if as.size ≤ i ∧ bs.size ≤ j then []
    else if isMarked left i || isMarked right j then
      let x := (upFrom left left.size i).toNat
      let y := (upFrom right right.size j).toNat
      ⟨i, (as.extract i x).toList, j, (bs.extract j y).toList⟩ ::
        hunksOf as bs left right n (x + 1) (y + 1)
    else hunksOf as bs left right n (i + 1) (j + 1)

/-- How many lines two lists have in common at their starts. -/
def commonStart : List String → List String → Nat
  | a :: as, b :: bs => if a = b then commonStart as bs + 1 else 0
  | _, _ => 0

/-- Where two lists of lines differ. Of the lines that they have in common at their ends, so many are
looked at. Lines that are not the same may count as the same. -/
def hunks (counted : String → List Char) (horizon : Nat) (as bs : List String) : List Hunk :=
  let first := commonStart as bs - horizon
  let as := as.drop first
  let bs := bs.drop first
  let last := commonStart as.reverse bs.reverse - horizon
  let xs := (as.take (as.length - last)).toArray
  let ys := (bs.take (bs.length - last)).toArray
  let us := xs.map counted
  let vs := ys.map counted
  let kept (us vs : Array (List Char)) : Array Nat :=
    ((List.range us.size).filter fun i => vs.contains (us.getD i [])).toArray
  let left := kept us vs
  let right := kept vs us
  let same (i j : Nat) : Bool := us.getD (left.getD i 0) [] == vs.getD (right.getD j 0) []
  let (lone, alone) := unmatched same (left.size + right.size + 1) ⟨0, left.size, 0, right.size⟩
  let marks (size : Nat) (kept : Array Nat) (numbers : List Nat) : Array Bool :=
    marksOf size (((List.range size).filter fun i => !kept.contains i) ++
      numbers.map fun i => kept.getD i 0)
  let x := marks xs.size left lone
  let y := marks ys.size right alone
  let inOne (us : Array (List Char)) (i j : Int) : Bool :=
    us.getD i.toNat [] == us.getD j.toNat []
  let x := settled (inOne us) y x
  let y := settled (inOne vs) x y
  (hunksOf xs ys x y (xs.size + ys.size + 1) 0 0).map fun h =>
    { h with before := h.before + first, beforeRight := h.beforeRight + first }

end AslBuild.Tools.Diff
