import AslBuild.Tools.Diff.Lines
set_option autoImplicit false

/-!
# Hunks with the lines around them

Hunks that are not far apart are shown together, with lines in front of them, between them and behind
them that both texts have.

## Main definitions

* `AslBuild.Tools.Diff.grouped` — hunks that are shown together.
* `AslBuild.Tools.Diff.unified` — a group in one piece.
* `AslBuild.Tools.Diff.twofold` — a group in two pieces, one for each text.
-/

namespace AslBuild.Tools.Diff

open Text

/-- Hunks that are shown together, with so many lines around them. Those that do not count are shown
with others only if they are nearer. -/
def grouped (k : Look) (context : Nat) : List Hunk → List (List Hunk)
  | [] => []
  | h :: rest =>
    match grouped k context rest with
    | (next :: others) :: groups =>
      let limit := if k.isTrivial [h] || k.isTrivial [next] then context else 2 * context + 1
      if next.before < h.before + h.left.length + limit then (h :: next :: others) :: groups
      else [h] :: (next :: others) :: groups
    | groups => [h] :: groups

/-- Where a group starts and ends with the lines around it, by numbers of lines: in the first text,
and in the second one. -/
structure Frame where
  start : Nat
  stop : Nat
  startRight : Nat
  stopRight : Nat

/-- Where a group starts and ends with so many lines around it. -/
def Frame.of (context : Nat) (as bs : Array String) (first last : Hunk) : Frame where
  start := first.before - context
  stop := min as.size (last.before + last.left.length + context)
  startRight := first.beforeRight - context
  stopRight := min bs.size (last.beforeRight + last.right.length + context)

/-- The title of the part of a text that a line belongs to. -/
def titleAbove (k : Look) (as : Array String) (line : Nat) : String :=
  let isTitle (l : String) : Bool :=
    let cs := if l.endsWith "\n" then l.toList.dropLast else l.toList
    k.titles.any fun r => r.isIn cs
  match (as.extract 0 line).toList.reverse.find? isTitle with
  | none => ""
  | some title =>
    let isBlank (c : Char) : Bool := c == ' ' || (0x09 ≤ c.toNat && c.toNat ≤ 0x0D)
    let cs := (title.toList.dropWhile isBlank).take 40
    " " ++ String.ofList (cs.reverse.dropWhile isBlank).reverse

/-- The lines from one number up to another, each with the sign of a line that both texts have. -/
def shared (as : Array String) (start stop : Nat) : List (String × String) :=
  withSign " " (as.extract start stop).toList

/-! ## In one piece -/

/-- The numbers of some lines: that of the first one, and how many there are. -/
def counted (start stop : Nat) : String :=
  (if stop = start then toString start else toString (start + 1)) ++
    if stop = start + 1 then "" else "," ++ toString (stop - start)

/-- The lines of hunks, from a line of the first text up to another. -/
def unifiedRows (k : Look) (as : Array String) (stop : Nat) : Nat → List Hunk → String
  | start, [] => rows k.close (shared as start stop)
  | start, h :: hs =>
    rows k.close (shared as start h.before) ++
      k.block .removed k.close (withSign "-" h.left) ++
      k.block .added k.close (withSign "+" h.right) ++
      unifiedRows k as stop (h.before + h.left.length) hs

/-- A group in one piece, with so many lines around it. -/
def unified (k : Look) (context : Nat) (as bs : Array String) (group : List Hunk) : String :=
  match group, group.getLast? with
  | first :: _, some last =>
    let f := Frame.of context as bs first last
    k.paint .place
        ("@@ -" ++ counted f.start f.stop ++ " +" ++ counted f.startRight f.stopRight ++ " @@") ++
      titleAbove k as f.start ++ "\n" ++ unifiedRows k as f.stop f.start group
  | _, _ => ""

/-! ## In two pieces -/

/-- The lines of the first text in a group, from one up to another. -/
def leftRows (as : Array String) (stop : Nat) : Nat → List Hunk → List (String × String)
  | start, [] => shared as start stop
  | start, h :: hs =>
    shared as start h.before ++ withSign (if h.right.isEmpty then "-" else "!") h.left ++
      leftRows as stop (h.before + h.left.length) hs

/-- The lines of the second text in a group, from one up to another. -/
def rightRows (bs : Array String) (stop : Nat) : Nat → List Hunk → List (String × String)
  | start, [] => shared bs start stop
  | start, h :: hs =>
    shared bs start h.beforeRight ++ withSign (if h.left.isEmpty then "+" else "!") h.right ++
      rightRows bs stop (h.beforeRight + h.right.length) hs

/-- A group in two pieces, with so many lines around it. A piece in which nothing changes is left
out. -/
def twofold (k : Look) (context : Nat) (as bs : Array String) (group : List Hunk) : String :=
  match group, group.getLast? with
  | first :: _, some last =>
    let f := Frame.of context as bs first last
    let piece (sign : String) (start stop : Nat) (c : Color) (isShown : Bool)
        (lines : List (String × String)) : String :=
      k.paint .place (sign ++ " " ++ span "," start (stop - start) ++ " " ++ sign ++
          (sign.take 1).toString) ++ "\n" ++
        if isShown then k.block c k.signed lines else ""
    "***************" ++ titleAbove k as f.start ++ "\n" ++
      piece "***" f.start f.stop .removed (group.any fun h => !h.left.isEmpty)
        (leftRows as f.stop f.start group) ++
      piece "---" f.startRight f.stopRight .added (group.any fun h => !h.right.isEmpty)
        (rightRows bs f.stopRight f.startRight group)
  | _, _ => ""

end AslBuild.Tools.Diff
