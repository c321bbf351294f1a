import AslBuild.Act
import AslBuild.Shell.Arithmetic.Token
set_option autoImplicit false

/-!
# Reading calculations

## Main definitions

* `AslBuild.Shell.Calculation.ofChars` — the expression that a text spells.
-/

namespace AslBuild.Shell

namespace Calculation

/-! ## Steps -/

/-- A step of reading an expression. -/
abbrev Reading (α : Type) : Type := Act Fault (List (Symbol × List Char)) α

/-- The text from the next token on. -/
def place : Reading (List Char) := do pure (((← Act.read).head?.map (·.2)).getD [])

/-- The expression makes no sense here. What is no token is worse than anything else. -/
def refuse {α : Type} (problem : Problem) : Reading α := do
  let here ← place
  match ← Act.read with
  | (.wrong worse unread, _) :: _ => Act.fail ⟨worse, here, unread⟩
  | _ => Act.fail ⟨problem, here, 0⟩

/-- Go past a token. -/
def advance : Reading Unit := Act.update List.tail

/-- Whether a sign comes next; it is then gone past. -/
def accept (s : String) : Reading Bool := fun symbols =>
  match symbols with
  | (.sign t, _) :: rest => if s = t then (.ok true, rest) else (.ok false, symbols)
  | _ => (.ok false, symbols)

/-- Go past a sign that has to come next. -/
def expect (s : String) : Reading Unit := do
  if ← accept s then pure () else refuse (.sign s)

/-! ## Operands -/

/-- The operators with two operands, by how tightly they bind. -/
def levels : List (List (String × Operator)) :=
  [[("|", .bitOr)], [("^", .bitXor)], [("&", .bitAnd)], [("==", .equal), ("!=", .different)],
    [("<", .less), ("<=", .lessEqual), (">", .greater), (">=", .greaterEqual)],
    [("<<", .shiftLeft), (">>", .shiftRight)], [("+", .plus), ("-", .minus)],
    [("*", .times), ("/", .over), ("%", .modulo)]]

/-- The operators that change a variable. -/
def assignments : List (String × Option Operator) :=
  [("=", none), ("+=", some .plus), ("-=", some .minus), ("*=", some .times), ("/=", some .over),
    ("%=", some .modulo), ("<<=", some .shiftLeft), (">>=", some .shiftRight),
    ("&=", some .bitAnd), ("^=", some .bitXor), ("|=", some .bitOr)]

/-- The signs in front of an operand. -/
def prefixes : List (String × Prefix) :=
  [("+", .plus), ("-", .minus), ("!", .not), ("~", .complement)]

/-- How to read what is nested. -/
structure Nested where
  /-- An expression. -/
  whole : Reading Calculation
  /-- An expression without a comma. -/
  single : Reading Calculation
  /-- An operand. -/
  operand : Reading Calculation

/-- The subscript of a variable, if it has one. -/
def subscript? (inner : Nested) : Reading (Option Calculation) := do
  if ← accept "[" then
    let e ← match ← Act.read with
      | (.key text, _) :: _ => do
        advance
        pure (.key text)
      | _ => inner.whole
    expect "]"
    pure (some e)
  else pure none

/-- An operand. -/
def operand (inner : Nested) : Reading Calculation := do
  match ← Act.read with
  | (.number n, _) :: _ =>
    advance
    pure (.number n)
  | (.name name, _) :: _ =>
    advance
    let subscript ← subscript? inner
    if ← accept "++" then pure (.step name subscript 1 true)
    else if ← accept "--" then pure (.step name subscript (-1) true)
    else pure (.variable name subscript)
  | (.sign "(", _) :: _ =>
    advance
    let e ← inner.whole
    expect ")"
    pure e
  | (.sign "++", _) :: (.name name, _) :: rest =>
    Act.update fun _ => rest
    pure (.step name (← subscript? inner) 1 false)
  | (.sign "--", _) :: (.name name, _) :: rest =>
    Act.update fun _ => rest
    pure (.step name (← subscript? inner) (-1) false)
  | (.sign s, _) :: _ =>
    match prefixes.lookup s with
    | some operator =>
      advance
      pure (.unary operator (← inner.operand))
    | none => refuse .operand
  | _ => refuse .operand

/-! ## Operators -/

/-- Two operands, the first of which was read, with an operator between them. -/
def joining (operator : Operator) (tighter : Reading Calculation) (left : Calculation) :
    Reading Calculation := do
  advance
  let before ← place
  let right ← tighter
  let after ← place
  pure (.binary operator left right (if operator = .power then after else before))

/-- The operands after the first one, on one level of operators. At most so many are read. -/
def operands (operators : List (String × Operator)) (tighter : Reading Calculation) :
    Nat → Calculation → Reading Calculation
  | 0, left => pure left
  | n + 1, left => do
    match ← Act.read with
    | (.sign s, _) :: _ =>
      match operators.lookup s with
      | some operator => operands operators tighter n (← joining operator tighter left)
      | none => pure left
    | _ => pure left

/-- Operands with signs for powers between them, the last of which comes first. At most so many are
read. -/
def powers (operand : Reading Calculation) : Nat → Reading Calculation
  | 0 => operand
  | n + 1 => do
    let left ← operand
    match ← Act.read with
    | (.sign "**", _) :: _ => joining .power (powers operand n) left
    | _ => pure left

/-- Operands with operators of some levels between them. -/
def binaryFrom (bound : Nat) (operand : Reading Calculation) :
    List (List (String × Operator)) → Reading Calculation
  | [] => powers operand bound
  | operators :: levels => do
    let first ← binaryFrom bound operand levels
    operands operators (binaryFrom bound operand levels) bound first

/-- Conditions with one sign between them, after the first one. At most so many are read. -/
def conditions (sign : String) (join : Calculation → Calculation → Calculation)
    (tighter : Reading Calculation) : Nat → Calculation → Reading Calculation
  | 0, left => pure left
  | n + 1, left => do
    if ← accept sign then conditions sign join tighter n (join left (← tighter)) else pure left

/-- The rest of a choice after its test, if there is one. -/
def choiceAfter (inner : Nested) (test : Calculation) : Reading Calculation := do
  if ← accept "?" then
    match ← Act.read with
    | (.sign ":", _) :: _ | (.finish, _) :: _ => refuse .nothing
    | _ => pure ()
    let yes ← inner.whole
    expect ":"
    pure (.choice test yes (← inner.single))
  else pure test

/-- A variable, or an item of it, is set to what follows the sign. -/
def assignment (inner : Nested) (name : String) (subscript : Option Calculation)
    (operator : Option Operator) : Reading Calculation := do
  advance
  let value ← inner.single
  pure (.assign name subscript operator value (← place))

/-- A condition, or an assignment to an item. -/
def conditional (inner : Nested) (bound : Nat) : Reading Calculation := do
  let binary := binaryFrom bound inner.operand levels
  let conjunction : Reading Calculation := do conditions "&&" .both binary bound (← binary)
  let test ← conditions "||" .either conjunction bound (← conjunction)
  match test, ← Act.read with
  | .variable name (some subscript), (.sign s, _) :: _ =>
    match assignments.lookup s with
    | some operator => assignment inner name (some subscript) operator
    | none => choiceAfter inner test
  | _, _ => choiceAfter inner test

/-- An expression without a comma. -/
def single (inner : Nested) (bound : Nat) : Reading Calculation := do
  match ← Act.read with
  | (.name name, _) :: (.sign s, _) :: _ =>
    match assignments.lookup s with
    | some operator => do
      advance
      assignment inner name none operator
    | none => conditional inner bound
  | _ => conditional inner bound

/-- Expressions with commas between them, after the first one. At most so many are read. -/
def whole (inner : Nested) (bound : Nat) : Reading Calculation := do
  conditions "," .comma inner.single bound (← inner.single)

/-- How to read what is nested at most so deep. -/
def nested (bound : Nat) : Nat → Nested
  | 0 =>
    { whole := refuse .operand
      single := refuse .operand
      operand := refuse .operand }
  | n + 1 =>
    { whole := fun symbols => whole (nested bound n) bound symbols
      single := fun symbols => single (nested bound n) bound symbols
      operand := fun symbols => operand (nested bound n) symbols }

/-- Nothing may follow the expression. -/
def ending : Reading Unit := do
  match ← Act.read with
  | (.finish, _) :: _ | [] => pure ()
  | (.sign s, _) :: _ => refuse (if (assignments.lookup s).isSome then .target else .leftover)
  | _ => refuse .leftover

/-- The expression that a text spells, or what is wrong with it. Without extensions there has to be
one. -/
def ofChars (how : Spelling) (cs : List Char) : Except Fault Calculation :=
  let symbols := symbols how (cs.length + 1) (.finish, []) cs
  if how.extended && symbols.length == 1 then .ok (.number 0)
  else
    let bound := symbols.length + 2
    let whole : Reading Calculation := do
      let e ← (nested bound (3 * bound)).whole
      ending
      pure e
    (Act.run whole symbols).1

end Calculation

end AslBuild.Shell
