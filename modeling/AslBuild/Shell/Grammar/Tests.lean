import AslBuild.Shell.Grammar.Pieces
set_option autoImplicit false

/-!
# Reading tests in double brackets

## Main definitions

* `AslBuild.Shell.Reading.condition` — read a test.
-/

namespace AslBuild.Shell

namespace Reading

/-! ## Tests in double brackets -/

/-- The tests with one operand. -/
def unaryTests : List String :=
  ["-n", "-z", "-e", "-f", "-d", "-s", "-x", "-r", "-w", "-h", "-L", "-p", "-S", "-b", "-c", "-g",
    "-u", "-k", "-t", "-v", "-a", "-o", "-O", "-G", "-N"]

/-- The tests with two operands. -/
def binaryTests : List String :=
  ["=", "==", "!=", "=~", "-eq", "-ne", "-lt", "-le", "-gt", "-ge", "-nt", "-ot", "-ef"]

/-- The right side of a test that compares with an expression: everything up to a blank outside of
brackets. At most so many parts are read. -/
def expression (inner : Inner) : Nat → Nat → Reading Word
  | 0, _ => pure []
  | n + 1, depth => do
    let w ← word inner
    match ← look with
    | some '(' =>
      skip
      pure (w ++ .text ['('] false :: (← expression inner n (depth + 1)))
    | some ')' =>
      match depth with
      | 0 => pure w
      | depth + 1 =>
        skip
        pure (w ++ .text [')'] false :: (← expression inner n depth))
    | some '|' =>
      if depth = 0 ∧ w.isEmpty then pure w
      else
        skip
        pure (w ++ .text ['|'] false :: (← expression inner n depth))
    | some c =>
      if 0 < depth ∧ c = ' ' then
        skip
        pure (w ++ .text [' '] false :: (← expression inner n depth))
      else pure w
    | none => pure w

/-- A test, and how it is listed. -/
abbrev Spelled : Type := Condition Word × String

/-- Read something that may hold patterns in parentheses. -/
def withGroups {α : Type} (x : Reading α) : Reading α := do
  let groups := (← Act.read).groups
  Act.update fun s => { s with groups := true }
  let a ← x
  Act.update fun s => { s with groups }
  pure a

/-- The right side of a test, after its sign, and how it is spelled. -/
def rightSide (inner : Inner) (operator : String) : Reading (Word × String) := do
  if operator = "=~" then
    skipBlanks
    let before := (← Act.read).rest
    let w ← expression inner (← bound) 0
    let length := before.length - (← Act.read).rest.length
    pure (w, String.ofList (before.take length))
  else
    match ← withGroups (next inner false false) with
    | .word w => do pure (w, (← Act.read).spelled)
    | _ => unexpected none

/-- A test with two operands, the first of which was read with its sign. -/
def comparison (inner : Inner) (left : Word) (spelled operator : String) : Reading Spelled := do
  let (right, text) ← rightSide inner operator
  pure (.binary left operator right, spelled ++ " " ++ operator ++ " " ++ text)

/-- One test without signs between tests. At most so many signs that turn it round are read. -/
def primary (inner : Inner) : Nat → Reading Spelled
  | 0 => unexpected none
  | n + 1 => do
    match ← next inner true true with
    | .keyword "!" => do
      let (c, spelled) ← primary inner n
      pure (.not c, "! " ++ spelled)
    | .openGroup =>
      let (c, spelled) ← inner.condition
      match ← next inner true false with
      | .closeGroup => pure (c, "( " ++ spelled ++ " )")
      | _ => unexpected (some "\")\"")
    | t =>
      let w := t.asWord
      let spelled := (← Act.read).spelled
      let unary? := w.plain?.filter unaryTests.contains
      match unary?, ← next inner false true with
      | some operator, .word operand => do
        pure (.unary operator operand, operator ++ " " ++ (← Act.read).spelled)
      | none, .word sign =>
        match sign.plain? with
        | some operator =>
          if binaryTests.contains operator then comparison inner w spelled operator
          else unexpected none
        | none => unexpected none
      | _, .redirect 0 (.to .source) none => comparison inner w spelled "<"
      | _, .redirect 1 (.to .output) none => comparison inner w spelled ">"
      | _, u =>
        giveBack u
        pure (.word w, "-n " ++ spelled)

/-- The next test without signs between tests. -/
def onePrimary (inner : Inner) : Reading Spelled := do primary inner (← bound)

/-- Tests that all have to hold, after the first one. At most so many are read. -/
def conjunction (inner : Inner) : Nat → Spelled → Reading Spelled
  | 0, c => pure c
  | n + 1, c => do
    match ← next inner true true with
    | .andIf =>
      let d ← onePrimary inner
      conjunction inner n (.both c.1 d.1, c.2 ++ " && " ++ d.2)
    | t =>
      giveBack t
      pure c

/-- Tests one of which has to hold, after the first one. At most so many are read. -/
def disjunction (inner : Inner) : Nat → Spelled → Reading Spelled
  | 0, c => pure c
  | n + 1, c => do
    match ← next inner true true with
    | .orIf =>
      let d ← conjunction inner (← bound) (← onePrimary inner)
      disjunction inner n (.either c.1 d.1, c.2 ++ " || " ++ d.2)
    | t =>
      giveBack t
      pure c

/-- A test in double brackets, after the opening ones. -/
def condition (inner : Inner) : Reading Spelled := do
  disjunction inner (← bound) (← conjunction inner (← bound) (← onePrimary inner))


end Reading

end AslBuild.Shell
