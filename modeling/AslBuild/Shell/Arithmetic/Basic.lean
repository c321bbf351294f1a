set_option autoImplicit false

/-!
# Calculations

The shell calculates with whole numbers of 64 bits, which wrap around. A name stands for the value
of a variable, and a calculation may change variables.

## Main definitions

* `AslBuild.Shell.Calculation` — expressions.
* `AslBuild.Shell.Fault` — what is wrong with an expression, and where.
-/

namespace AslBuild.Shell

/-! ## Expressions -/

/-- An operator with two operands, both of which are calculated. -/
inductive Operator
  | times
  | over
  | modulo
  | plus
  | minus
  | shiftLeft
  | shiftRight
  | less
  | lessEqual
  | greater
  | greaterEqual
  | equal
  | different
  | bitAnd
  | bitXor
  | bitOr
  | power
deriving DecidableEq

/-- An operator with one operand. -/
inductive Prefix
  | plus
  | minus
  | not
  | complement
deriving DecidableEq

/-- An expression. -/
inductive Calculation
  /-- A number. -/
  | number (n : Int)
  /-- The name of an item of a table, which stands as a subscript. -/
  | key (text : String)
  /-- The value of a variable, or of an item of it. -/
  | variable (name : String) (subscript : Option Calculation)
  /-- An operator with one operand. -/
  | unary (operator : Prefix) (operand : Calculation)
  /-- An operator with two operands, and the text that is named if it has no value for them. -/
  | binary (operator : Operator) (left right : Calculation) (place : List Char)
  /-- Whether both hold; the second is only calculated if the first holds. -/
  | both (left right : Calculation)
  /-- Whether one holds; the second is only calculated if the first does not hold. -/
  | either (left right : Calculation)
  /-- One of two, as a test says. -/
  | choice (test yes no : Calculation)
  /-- A variable is set, or changed by an operator. The text is named if that has no value. -/
  | assign (name : String) (subscript : Option Calculation) (operator : Option Operator)
    (value : Calculation) (place : List Char)
  /-- A variable is changed by a number; the value is the one before or after. -/
  | step (name : String) (subscript : Option Calculation) (change : Int) (before : Bool)
  /-- Two, of which the second counts. -/
  | comma (first second : Calculation)

/-! ## Faults -/

/-- What is wrong with an expression. -/
inductive Problem
  /-- There is no operand where there has to be one. -/
  | operand
  /-- A character is no operator. -/
  | operator
  /-- A sign does not come where it has to. -/
  | sign (text : String)
  /-- There is nothing between the signs of a choice. -/
  | nothing
  /-- Something follows the expression. -/
  | leftover
  /-- Something other than a variable is to be set. -/
  | target
  /-- A digit of a number is too large. -/
  | digit
  /-- Numbers have no such base. -/
  | base
  /-- No digits follow the base of a number. -/
  | constant
  /-- A number is divided by zero. -/
  | byZero
  /-- An exponent is negative. -/
  | exponent
  /-- A variable stands for itself. -/
  | depth
deriving DecidableEq

/-- How a problem is put. -/
def Problem.message (extended : Bool) : Problem → String
  | .operand => if extended then "syntax error: operand expected" else "expecting primary"
  | .operator => "syntax error: invalid arithmetic operator"
  | .sign text =>
    if !extended then "expecting '" ++ text ++ "'"
    else if text = ")" then "missing \x60)'"
    else if text = ":" then "\x60:' expected for conditional expression"
    else "bad array subscript"
  | .nothing => if extended then "expression expected" else "expecting primary"
  | .leftover => if extended then "syntax error in expression" else "expecting EOF"
  | .target => if extended then "attempted assignment to non-variable" else "expecting EOF"
  | .digit => "value too great for base"
  | .base => "invalid arithmetic base"
  | .constant => "invalid integer constant"
  | .byZero => if extended then "division by 0" else "division by zero"
  | .exponent => "exponent less than 0"
  | .depth => "expression recursion level exceeded"

/-- What is wrong with an expression, and where. -/
structure Fault where
  /-- What is wrong. -/
  problem : Problem
  /-- The expression from the place on that is named. -/
  place : List Char := []
  /-- How many characters at the end of the expression are not looked at. -/
  unread : Nat := 0

/-- How a fault in an expression is put. -/
def Fault.message (extended : Bool) (expression : String) (f : Fault) : String :=
  let problem := f.problem.message extended
  if extended then
    let isBlank (c : Char) : Bool := c == ' ' || c == '\t' || c == '\n'
    let shown (cs : List Char) : String := String.ofList (cs.take (cs.length - f.unread))
    shown (expression.toList.dropWhile isBlank) ++ ": " ++ problem ++ " (error token is \"" ++
      shown f.place ++ "\")"
  else "arithmetic expression: " ++ problem ++ ": \"" ++ expression ++ "\""

end AslBuild.Shell
