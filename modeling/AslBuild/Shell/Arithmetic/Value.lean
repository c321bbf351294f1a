import AslBuild.Shell.Arithmetic.Token
set_option autoImplicit false

/-!
# The values of calculations

## Main definitions

* `AslBuild.Shell.Calculation.Access` — how variables are read and set.
* `AslBuild.Shell.Calculation.value` — the value of an expression.
-/

namespace AslBuild.Shell

namespace Calculation

/-- How variables are read and set, where a step has type `μ`. -/
structure Access (μ : Type → Type) where
  /-- The value of a variable, or of an item of it. -/
  fetch : String → Option String → μ Int
  /-- Set a variable, or an item of it. -/
  store : String → Option String → Int → μ Unit
  /-- The calculation makes no sense. -/
  refuse : Fault → μ Int

/-- A truth value as a number. -/
def truth (b : Bool) : Int := if b then 1 else 0

/-- The number of bits by which a number is shifted. -/
def shiftBy (n : Int) : Nat := (n.emod 64).toNat

/-- A number without a sign, of 64 bits. -/
def bits (n : Int) : Nat := (n.emod (Int.pow 2 64)).toNat

/-- The value of an operator with two operands; nothing for a division by zero or a power with a
negative exponent. -/
def compute? (a b : Int) : Operator → Option Int
  | .times => some (wrap (a * b))
  | .over => if b = 0 then none else some (wrap (a.tdiv b))
  | .modulo => if b = 0 then none else some (a.tmod b)
  | .plus => some (wrap (a + b))
  | .minus => some (wrap (a - b))
  | .shiftLeft => some (wrap (a * Int.pow 2 (shiftBy b)))
  | .shiftRight => some (a.fdiv (Int.pow 2 (shiftBy b)))
  | .less => some (truth (a < b))
  | .lessEqual => some (truth (a ≤ b))
  | .greater => some (truth (b < a))
  | .greaterEqual => some (truth (b ≤ a))
  | .equal => some (truth (a = b))
  | .different => some (truth (a ≠ b))
  | .bitAnd => some (wrap (bits a &&& bits b))
  | .bitXor => some (wrap (bits a ^^^ bits b))
  | .bitOr => some (wrap (bits a ||| bits b))
  | .power => if b < 0 then none else some (wrap (Int.pow a b.toNat))

/-- Why an operator has no value. -/
def refusal : Operator → Problem
  | .power => .exponent
  | _ => .byZero

section

variable {μ : Type → Type} [Monad μ]

/-- The value of an expression. -/
def value (access : Access μ) : Calculation → μ Int
  | .number n => pure n
  | .key _ => pure 0
  | .variable name none => access.fetch name none
  | .variable name (some (.key text)) => access.fetch name (some text)
  | .variable name (some subscript) => do
    access.fetch name (some (toString (← value access subscript)))
  | .unary .plus e => value access e
  | .unary .minus e => do pure (wrap (-(← value access e)))
  | .unary .not e => do pure (truth ((← value access e) == 0))
  | .unary .complement e => do pure (wrap (-(← value access e) - 1))
  | .binary operator left right behind => do
    let a ← value access left
    let b ← value access right
    match compute? a b operator with
    | some n => pure n
    | none => access.refuse ⟨refusal operator, behind, 0⟩
  | .both left right => do
    if (← value access left) == 0 then pure 0
    else pure (truth ((← value access right) != 0))
  | .either left right => do
    if (← value access left) != 0 then pure 1
    else pure (truth ((← value access right) != 0))
  | .choice test yes no => do
    if (← value access test) != 0 then value access yes else value access no
  | .assign name subscript operator e behind => do
    let place ← match subscript with
      | none => pure none
      | some (.key text) => pure (some text)
      | some subscript => do pure (some (toString (← value access subscript)))
    let b ← value access e
    let n ← match operator with
      | none => pure b
      | some operator => do
        match compute? (← access.fetch name place) b operator with
        | some n => pure n
        | none => access.refuse ⟨refusal operator, behind, 0⟩
    access.store name place n
    pure n
  | .step name subscript change before => do
    let place ← match subscript with
      | none => pure none
      | some (.key text) => pure (some text)
      | some subscript => do pure (some (toString (← value access subscript)))
    let old ← access.fetch name place
    access.store name place (wrap (old + change))
    pure (if before then old else wrap (old + change))
  | .comma first second => do
    let _ ← value access first
    value access second

end

end Calculation

end AslBuild.Shell
