import AslBuild.Text.Regex
set_option autoImplicit false

/-!
# Rich expressions

Expressions that also look around, may want as little as possible and may use their own parts again.
Of all places where one is found the first one counts, and there the first way in which it fits:
what stands further left is tried first.

## Main definitions

* `AslBuild.Text.Rich` — an expression.
* `AslBuild.Text.Rich.walk` — the ways in which it fits at a place, tried one after the other.
* `AslBuild.Text.Rich.findFrom` — the first match from a place on.
* `AslBuild.Text.Rich.width?` — how long a text is that fits, if that is always the same.
-/

namespace AslBuild.Text

/-- How much something that is repeated wants. -/
inductive Rich.Appetite
  /-- As much as possible. -/
  | much
  /-- As little as possible. -/
  | little
  /-- As much as possible, and nothing is given back. -/
  | all
deriving DecidableEq

/-- A rich expression. -/
inductive Rich
  /-- Nothing. -/
  | empty
  /-- What never fits. -/
  | never
  /-- A character with a property. -/
  | one (test : Char → Bool)
  /-- A condition on the place. -/
  | anchor (a : Anchor)
  /-- The place where the search started. -/
  | origin
  /-- The end of the text, or of its last line. -/
  | lastEnd
  /-- One after the other. -/
  | seq (a b : Rich)
  /-- The first one, or the other if that leads nowhere. -/
  | alt (a b : Rich)
  /-- Several times, at least and at most so often. -/
  | times (a : Rich) (least : Nat) (most : Option Nat) (appetite : Rich.Appetite)
  /-- A part that has a number. -/
  | group (number : Nat) (a : Rich)
  /-- The text that the part with a number matched. -/
  | again (number : Nat) (ignoresCase : Bool)
  /-- Whether something follows the place. -/
  | ahead (holds : Bool) (a : Rich)
  /-- Whether something stands in front of the place. -/
  | behind (holds : Bool) (a : Rich)
  /-- The first way in which something fits, and no other. -/
  | single (a : Rich)
  /-- What fits starts here. -/
  | keep
  /-- The part with a number once more; the whole expression has number 0. -/
  | call (number : Nat)
  /-- Whether the part with a number was found. -/
  | isSet (number : Nat)
  /-- One if a condition fits, the other if it does not. -/
  | either (condition a b : Rich)

namespace Rich

/-- Where an attempt stands. -/
structure Spot where
  /-- The place that was reached. -/
  place : Nat
  /-- Where what fits starts. -/
  start : Nat
  /-- The pieces of the parts, the last one first. -/
  groups : List (Nat × Nat × Nat) := []

/-- What an expression is tried on. -/
structure Field where
  /-- The text. -/
  text : Array Char
  /-- The place where the search started. -/
  origin : Nat
  /-- The parts with numbers. -/
  part : Nat → Option Rich

/-- Try an expression at a place, and go on from where it ends. The first way that leads to a result
counts. Expressions are followed to some depth only. -/
def walk (f : Field) : Nat → Rich → Spot → (Spot → Option Spot) → Option Spot
  | 0, _, _, _ => none
  | n + 1, r, s, go =>
    match r with
    | .empty => go s
    | .never => none
    | .one test => if (f.text[s.place]?).any test then go { s with place := s.place + 1 } else none
    | .anchor a => if a.holds f.text s.place then go s else none
    | .origin => if s.place = f.origin then go s else none
    | .lastEnd =>
      if s.place = f.text.size ∨ (s.place + 1 = f.text.size ∧ f.text[s.place]? = some '\n') then go s
      else none
    | .seq a b => walk f n a s fun t => walk f n b t go
    | .alt a b =>
      match walk f n a s go with
      | some t => some t
      | none => walk f n b s go
    | .times a (least + 1) most appetite =>
      walk f n a s fun t => walk f n (.times a least (most.map (· - 1)) appetite) t go
    | .times a 0 most appetite =>
      let more (rest : Spot → Option Spot) : Option Spot :=
        if most = some 0 then none
        else walk f n a s fun t =>
          if t.place = s.place then rest t
          else walk f n (.times a 0 (most.map (· - 1)) appetite) t rest
      match appetite with
      | .much =>
        match more go with
        | some t => some t
        | none => go s
      | .little =>
        match go s with
        | some t => some t
        | none => more go
      | .all =>
        match more some with
        | some t => go t
        | none => go s
    | .group number a =>
      walk f n a s fun t => go { t with groups := (number, s.place, t.place) :: t.groups }
    | .again number ignoresCase =>
      match s.groups.lookup number with
      | none => none
      | some (start, stop) =>
        let folded (cs : List Char) := if ignoresCase then cs.map Char.toLower else cs
        let next := s.place + (stop - start)
        if folded (pieceOf f.text start stop) == folded (pieceOf f.text s.place next) then
          go { s with place := next }
        else none
    | .ahead true a =>
      match walk f n a s some with
      | some t => go { t with place := s.place }
      | none => none
    | .ahead false a => if (walk f n a s some).isSome then none else go s
    | .behind holds a =>
      let found := (List.range (s.place + 1)).reverse.findSome? fun start =>
        walk f n a { s with place := start } fun t => if t.place = s.place then some t else none
      match holds, found with
      | true, some t => go t
      | false, none => go s
      | _, _ => none
    | .single a =>
      match walk f n a s some with
      | some t => go t
      | none => none
    | .keep => go { s with start := s.place }
    | .call number =>
      match f.part number with
      | some a => walk f n a s fun t => go { t with groups := s.groups }
      | none => none
    | .isSet number => if (s.groups.lookup number).isSome then go s else none
    | .either condition a b =>
      match walk f n condition s some with
      | some t => walk f n a t go
      | none => walk f n b s go

/-- How many steps an expression has. -/
def size : Rich → Nat
  | .seq a b | .alt a b => a.size + b.size + 1
  | .times a least _ _ => a.size + least + 1
  | .group _ a | .ahead _ a | .behind _ a | .single a => a.size + 1
  | .either c a b => c.size + a.size + b.size + 1
  | _ => 1

/-- The part with a number. -/
def part? (number : Nat) : Rich → Option Rich
  | .group n a => if n = number then some (.group n a) else part? number a
  | .seq a b | .alt a b => (part? number a).or (part? number b)
  | .times a _ _ _ | .ahead _ a | .behind _ a | .single a => part? number a
  | .either c a b => (part? number c).or ((part? number a).or (part? number b))
  | _ => none

/-- One expression after another. -/
def all (rs : List Rich) : Rich := rs.foldr .seq .empty

/-- A text that stands for itself. -/
def ofText (text : String) : Rich := all (text.toList.map fun c => .one (· == c))

/-- How long a text is that fits, if that is always the same. Parts are looked up to some depth. -/
def width? (part : Nat → Option Rich) : Nat → Rich → Option Nat
  | 0, _ => none
  | n + 1, r =>
    match r with
    | .one _ => some 1
    | .seq a b => do some ((← width? part n a) + (← width? part n b))
    | .alt a b => do
      let x ← width? part n a
      let y ← width? part n b
      if x = y then some x else none
    | .times a least most _ => do
      let x ← width? part n a
      if most = some least then some (least * x) else none
    | .group _ a | .single a => width? part n a
    | .again .. => none
    | .call number => (part number).bind (width? part n)
    | .either _ a b => do
      let x ← width? part n a
      let y ← width? part n b
      if x = y then some x else none
    | _ => some 0

/-- The alternatives of an expression. -/
def choices : Rich → List Rich
  | .alt a b => a :: choices b
  | r => [r]

/-- Whether something of a length that is not known is looked for in front of a place. -/
def looksFar (part : Nat → Option Rich) (depth : Nat) : Rich → Bool
  | .behind _ a => (choices a).any (fun b => (width? part depth b).isNone) || looksFar part depth a
  | .seq a b | .alt a b => looksFar part depth a || looksFar part depth b
  | .times a _ _ _ | .group _ a | .ahead _ a | .single a => looksFar part depth a
  | .either c a b => looksFar part depth c || looksFar part depth a || looksFar part depth b
  | _ => false

/-! ## Searching -/

/-- How deep an expression may be nested in itself, besides what the text asks for. -/
def spareDepth : Nat := 50

/-- The first way in which an expression fits at a place. -/
def matchAt (r : Rich) (text : Array Char) (origin i : Nat) : Option Match :=
  let part (n : Nat) : Option Rich := if n = 0 then some r else part? n r
  let depth := (r.size + 2) * (text.size - i + spareDepth)
  (walk ⟨text, origin, part⟩ depth r { place := i, start := i } some).map fun t =>
    { start := t.start, stop := t.place, groups := t.groups }

/-- The first match that starts at one of so many places, from a place on. -/
def findUpTo (r : Rich) (text : Array Char) (origin : Nat) : Nat → Nat → Option Match
  | 0, _ => none
  | n + 1, i =>
    match matchAt r text origin i with
    | some m => some m
    | none => findUpTo r text origin n (i + 1)

/-- The first match from a place on. -/
def findFrom (r : Rich) (text : Array Char) (i : Nat) : Option Match :=
  findUpTo r text i (text.size + 1 - i) i

end Rich

end AslBuild.Text
