set_option autoImplicit false

/-!
# Decimal numbers

Numbers with a fraction are read as exact quotients, rounded once to as many binary digits as a
floating-point number has, and written in fixed or in scientific notation. A tie goes to the even
neighbour, both times.

## Main definitions

* `AslBuild.Text.Decimal` — a number with a sign, as an exact quotient.
* `AslBuild.Text.Decimal.read` — the number that some characters start with.
* `AslBuild.Text.Decimal.rounded` — the nearest number with so many binary digits.
* `AslBuild.Text.Decimal.fixed`, `scientific`, `general` — the notations.
-/

namespace AslBuild.Text

/-- A number with a sign, as an exact quotient. -/
structure Decimal where
  /-- Whether it has a minus sign. -/
  negative : Bool := false
  /-- The numerator. -/
  num : Nat
  /-- The denominator, which is not zero. -/
  den : Nat := 1

namespace Decimal

/-- The nearest whole number to a quotient. A tie goes to the even one. -/
def nearest (num den : Nat) : Nat :=
  let q := num / den
  let twice := 2 * (num % den)
  if twice < den then q
  else if den < twice then q + 1
  else if q % 2 = 0 then q else q + 1

/-! ## Reading -/

/-- A whole number with a sign. -/
def ofInt (n : Int) : Decimal := { negative := n < 0, num := n.natAbs }

/-- The whole number of thousandths in a number, without what is left over. -/
def thousandths (d : Decimal) : Int :=
  let n : Int := d.num * 1000 / d.den
  if d.negative then -n else n

/-- The number that some digits spell. -/
def digitsValue (cs : List Char) : Nat := cs.foldl (fun n c => 10 * n + (c.toNat - 48)) 0

/-- The exponent that some characters start with, and what follows it. -/
def readExponent (cs : List Char) : Int × List Char :=
  match cs with
  | e :: rest =>
    if e = 'e' ∨ e = 'E' then
      let (minus, rest') := match rest with
        | '-' :: rest => (true, rest)
        | '+' :: rest => (false, rest)
        | rest => (false, rest)
      let digits := rest'.takeWhile Char.isDigit
      if digits.isEmpty then (0, cs)
      else
        let n : Int := digitsValue digits
        (if minus then -n else n, rest'.drop digits.length)
    else (0, cs)
  | [] => (0, cs)

/-- The largest exponent that makes a difference. -/
def maxExponent : Int := 20000

/-- The number without a sign that some characters start with, and what follows it. -/
def readUnsigned (cs : List Char) : Option (Decimal × List Char) :=
  let whole := cs.takeWhile Char.isDigit
  let (fraction, rest) := match cs.drop whole.length with
    | '.' :: rest =>
      let fraction := rest.takeWhile Char.isDigit
      if whole.isEmpty && fraction.isEmpty then ([], '.' :: rest)
      else (fraction, rest.drop fraction.length)
    | rest => ([], rest)
  if whole.isEmpty && fraction.isEmpty then none
  else
    let (exponent, rest) := readExponent rest
    let num := digitsValue (whole ++ fraction)
    let shift := max (-maxExponent) (min maxExponent exponent) - fraction.length
    some (if shift < 0 then { num, den := Nat.pow 10 shift.natAbs }
      else { num := num * Nat.pow 10 shift.natAbs }, rest)

/-- The number that some characters start with, and what follows it. -/
def read (cs : List Char) : Option (Decimal × List Char) :=
  match cs with
  | '-' :: cs => (readUnsigned cs).map fun (d, rest) => ({ d with negative := true }, rest)
  | '+' :: cs => readUnsigned cs
  | cs => readUnsigned cs

/-! ## Rounding -/

/-- The nearest number with so many binary digits. -/
def rounded (bits : Nat) (d : Decimal) : Decimal :=
  if d.num = 0 then { d with den := 1 }
  else
    let size : Int := (d.num.log2 : Int) - d.den.log2
    let shift := (bits : Int) - size
    let scaled (shift : Int) : Nat × Nat :=
      if 0 ≤ shift then (d.num * Nat.pow 2 shift.toNat, d.den)
      else (d.num, d.den * Nat.pow 2 shift.natAbs)
    let (num, den) := scaled shift
    let shift := if Nat.pow 2 bits ≤ num / den then shift - 1 else shift
    let (num, den) := scaled shift
    let q := nearest num den
    if 0 ≤ shift then { d with num := q, den := Nat.pow 2 shift.toNat }
    else { d with num := q * Nat.pow 2 shift.natAbs, den := 1 }

/-! ## Writing -/

/-- A number with at least so many digits. -/
def padded (width n : Nat) : String :=
  let digits := toString n
  String.ofList (List.replicate (width - digits.length) '0') ++ digits

/-- The digits without a sign, with so many of them after the point. -/
def fixed (places : Nat) (point : Bool) (d : Decimal) : String :=
  let n := nearest (d.num * Nat.pow 10 places) d.den
  let whole := toString (n / Nat.pow 10 places)
  if places = 0 then (if point then whole ++ "." else whole)
  else whole ++ "." ++ padded places (n % Nat.pow 10 places)

/-- The exponent of the first digit of a quotient that is not zero. -/
def exponentOf (num den : Nat) : Int :=
  if den ≤ num then ((toString (num / den)).length : Int) - 1
  else
    let first := -((toString (den / num)).length : Int)
    if den ≤ num * Nat.pow 10 (first + 1).natAbs then first + 1 else first

/-- The digits of a number with one of them in front of the point, and its exponent. -/
def significand (places : Nat) (d : Decimal) : Nat × Int :=
  if d.num = 0 then (0, 0)
  else
    let e := exponentOf d.num d.den
    let shift := (places : Int) - e
    let n := if 0 ≤ shift then nearest (d.num * Nat.pow 10 shift.toNat) d.den
      else nearest d.num (d.den * Nat.pow 10 shift.natAbs)
    if Nat.pow 10 (places + 1) ≤ n then (n / 10, e + 1) else (n, e)

/-- The digits without a sign, with one of them in front of the point, and an exponent. -/
def scientific (places : Nat) (point : Bool) (d : Decimal) : String :=
  let (n, e) := significand places d
  let digits := padded (places + 1) n
  let mantissa :=
    if places = 0 then (if point then digits ++ "." else digits)
    else (digits.take 1).toString ++ "." ++ (digits.drop 1).toString
  mantissa ++ (if e < 0 then "e-" else "e+") ++ padded 2 e.natAbs

/-- A text without the zeros at its end, and without a point there. -/
def withoutZeros (s : String) : String :=
  if s.toList.contains '.' then
    let cs := s.toList.reverse.dropWhile (· == '0')
    String.ofList (match cs with
      | '.' :: cs => cs.reverse
      | cs => cs.reverse)
  else s

/-- The shorter of the two notations, with at most so many digits. -/
def general (digits : Nat) (point : Bool) (d : Decimal) : String :=
  let digits := if digits = 0 then 1 else digits
  let (_, e) := significand (digits - 1) d
  if -4 ≤ e ∧ e < digits then
    let text := fixed ((digits : Int) - 1 - e).toNat point d
    if point then text else withoutZeros text
  else
    let text := scientific (digits - 1) point d
    if point then text
    else
      let mantissa := text.toList.takeWhile (· != 'e')
      withoutZeros (String.ofList mantissa) ++ String.ofList (text.toList.drop mantissa.length)

end Decimal

end AslBuild.Text
