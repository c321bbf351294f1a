import AslBuild.Text.Regex
import AslBuild.Tools.Task
set_option autoImplicit false

/-!
# Computing with arguments

The arguments are the words of an expression. Texts that spell numbers can be computed with, and any
texts can be compared.

## Main definitions

* `AslBuild.Tools.ExprFault` — why an expression makes no sense.
* `AslBuild.Tools.Expr.disjunction` — the value of an expression.
* `AslBuild.Tools.expr` — print the value of an expression.
-/

namespace AslBuild.Tools

open FileSystem Host Text

/-- Why an expression makes no sense. -/
inductive ExprFault
  /-- A word is missing behind another one. -/
  | missing (word : String)
  /-- A word stands where none belongs. -/
  | excess (word : String)
  /-- A bracket is not closed: that is found out behind a word, or at another one. -/
  | unclosed (word : String) (instead : Bool)
  /-- A closing bracket stands where none belongs. -/
  | closing
  /-- A text is no number. -/
  | number
  /-- A number is divided by zero. -/
  | zero
  /-- A pattern makes no sense. -/
  | pattern (defect : Regex.Defect)

/-- How a fault is put. -/
def ExprFault.message : ExprFault → String
  | .missing word => "syntax error: missing argument after " ++ quoted word
  | .excess word => "syntax error: unexpected argument " ++ quoted word
  | .unclosed word instead =>
    "syntax error: expecting ')' " ++ (if instead then "instead of " else "after ") ++ quoted word
  | .closing => "syntax error: unexpected ')'"
  | .number => "non-integer argument"
  | .zero => "division by zero"
  | .pattern defect => defect.message

namespace Expr

/-! ## Values -/

/-- The number that a text spells. -/
def integer? (text : String) : Option Int :=
  match text.toList with
  | '-' :: ds => (digits? (String.ofList ds)).map fun n => -(n : Int)
  | ds => (digits? (String.ofList ds)).map Int.ofNat

/-- Whether a value counts as nothing: it is empty, or it is zero. -/
def isNull (text : String) : Bool :=
  match text.toList with
  | [] => true
  | '-' :: ds => !ds.isEmpty && ds.all (· == '0')
  | ds => ds.all (· == '0')

/-- What a number is as a value. -/
def truth (b : Bool) : String := if b then "1" else "0"

/-- A comparison of two values: of numbers if both are, else of texts. -/
def comparison? (operator : String) : Option (String → String → Bool) :=
  let by_ (onInts : Int → Int → Bool) (onTexts : String → String → Bool) (a b : String) : Bool :=
    match integer? a, integer? b with
    | some m, some n => onInts m n
    | _, _ => onTexts a b
  match operator with
  | "<" => some (by_ (fun m n => decide (m < n)) fun a b => decide (a < b))
  | "<=" => some (by_ (fun m n => decide (m ≤ n)) fun a b => decide (a ≤ b))
  | "=" | "==" => some (by_ (· == ·) (· == ·))
  | "!=" => some (by_ (· != ·) (· != ·))
  | ">=" => some (by_ (fun m n => decide (n ≤ m)) fun a b => decide (b ≤ a))
  | ">" => some (by_ (fun m n => decide (n < m)) fun a b => decide (b < a))
  | _ => none

/-- What a text has in common with a pattern, from its start on: the group, or the length. -/
def colon (text pattern : String) : Except ExprFault String :=
  match Regex.ofChars { extended := false } pattern.toList with
  | .error defect => .error (.pattern defect)
  | .ok r =>
    let cs := text.toList.toArray
    let groups := 0 < r.groupCount
    match r.matchAt cs 0 with
    | some m =>
      .ok (if groups then String.ofList (m.text cs 1) else toString (m.text cs 0).length)
    | none => .ok (if groups then "" else "0")

/-- The number of the first character that is among some. -/
def indexOf (text among : String) : Nat :=
  let before := text.toList.takeWhile fun c => !among.toList.contains c
  if before.length < text.length then before.length + 1 else 0

/-- A part of a text: from a number on, so many characters. -/
def substring (text start count : String) : String :=
  match integer? start, integer? count with
  | some start, some count =>
    if start ≤ 0 ∨ count ≤ 0 then ""
    else String.ofList ((text.toList.drop (start.toNat - 1)).take count.toNat)
  | _, _ => ""

/-! ## Reading and computing -/

/-- What is left of the words, and the word in front of it. -/
structure Words where
  /-- The words that are left. -/
  rest : List String
  /-- The word that was read last. -/
  last : String := ""

/-- A step of reading. -/
abbrev Read (α : Type) : Type := Act ExprFault Words α

/-- Read a word. -/
def word : Read String := do
  let w ← Act.read
  match w.rest with
  | [] => Act.fail (.missing w.last)
  | a :: rest => do
    Act.update fun _ => { rest, last := a }
    pure a

/-- The next word, if it is one of some. It is read then. -/
def oneOf (words : List String) : Read (Option String) := do
  match (← Act.read).rest with
  | a :: rest =>
    if words.contains a then do
      Act.update fun _ => { rest, last := a }
      pure (some a)
    else pure none
  | [] => pure none

/-- A value alone, or an expression in brackets. -/
def primary (inner : Bool → Read String) (active : Bool) : Read String := do
  match ← word with
  | "(" => do
    let value ← inner active
    let w ← Act.read
    match w.rest with
    | ")" :: rest => do
      Act.update fun _ => { rest, last := ")" }
      pure value
    | a :: _ => Act.fail (.unclosed a true)
    | [] => Act.fail (.unclosed w.last false)
  | ")" => Act.fail .closing
  | a => pure a

/-- A value, or something that is found out about values. At most so many words are read. -/
def prefixed (inner : Bool → Read String) (active : Bool) : Nat → Read String
  | 0 => pure ""
  | n + 1 => do
    let next := prefixed inner active n
    match ← oneOf ["+", "length", "match", "index", "substr"] with
    | some "+" => word
    | some "length" => do pure (toString (← next).length)
    | some "match" => do
      let text ← next
      let pattern ← next
      if active then Act.ofExcept (colon text pattern) else pure ""
    | some "index" => do
      let text ← next
      pure (toString (indexOf text (← next)))
    | some _ => do
      let text ← next
      let start ← next
      pure (substring text start (← next))
    | none => primary inner active

/-- Values with signs between them that are computed from left to right. At most so many are
read. -/
def chain (signs : List String) (single : Read String)
    (compute : String → String → String → Except ExprFault String) (active : Bool) :
    Nat → String → Read String
  | 0, value => pure value
  | n + 1, value => do
    match ← oneOf signs with
    | none => pure value
    | some sign => do
      let right ← single
      let value ← if active then Act.ofExcept (compute sign value right) else pure value
      chain signs single compute active n value

/-- A sum, a difference, a product, a quotient or a remainder. -/
def arithmetic (sign left right : String) : Except ExprFault String :=
  match integer? left, integer? right with
  | some a, some b =>
    match sign with
    | "+" => .ok (toString (a + b))
    | "-" => .ok (toString (a - b))
    | "*" => .ok (toString (a * b))
    | "/" => if b = 0 then .error .zero else .ok (toString (a.tdiv b))
    | _ => if b = 0 then .error .zero else .ok (toString (a.tmod b))
  | _, _ => .error .number

/-- A value with signs that bind more than those between tests. -/
def comparand (inner : Bool → Read String) (size : Nat) (active : Bool) : Read String := do
  let matched : Read String := do
    let single := prefixed inner active size
    chain [":"] single (fun _ text pattern => colon text pattern) active size (← single)
  let product : Read String := do
    chain ["*", "/", "%"] matched arithmetic active size (← matched)
  chain ["+", "-"] product arithmetic active size (← product)

/-- A comparison. -/
def comparison (inner : Bool → Read String) (size : Nat) (active : Bool) : Read String := do
  let single := comparand inner size active
  chain ["<", "<=", "=", "==", "!=", ">=", ">"] single
    (fun sign a b => .ok (truth (((comparison? sign).map fun f => f a b).getD false))) active size
    (← single)

/-- Values of which all have to be something, or at least one. -/
def junction (sign : String) (all : Bool) (single : Bool → Read String) (active : Bool) :
    Nat → String → Read String
  | 0, value => pure value
  | n + 1, value => do
    match ← oneOf [sign] with
    | none => pure value
    | some _ => do
      let right ← single (active && isNull value != all)
      let joined :=
        if all then (if isNull value || isNull right then "0" else value)
        else if isNull value then (if isNull right then "0" else right)
        else value
      junction sign all single active n joined

/-- The value of an expression, in brackets at most so deep, of at most so many words. It is
computed only if it is needed. -/
def disjunction (size : Nat) : Nat → Bool → Read String
  | 0, _ => pure ""
  | n + 1, active => do
    let inner := comparison (disjunction size n) size
    let conjunction (active : Bool) : Read String := do
      junction "&" true inner active size (← inner active)
    junction "|" false conjunction active size (← conjunction active)

/-- The value of all the words. -/
def value (words : List String) : Except ExprFault String :=
  let size := words.length + 1
  match Act.run (disjunction size size true) { rest := words } with
  | (.ok value, { rest := [], .. }) => .ok value
  | (.ok _, { rest := a :: _, .. }) => .error (.excess a)
  | (.error fault, _) => .error fault

end Expr

/-- Print the value of an expression. -/
def expr : Tool := .ofTask fun args => do
  let words := if args.head? = some "--" then args.tail else args
  if words.isEmpty then misuse 2 "missing operand"
  match Expr.value words with
  | .error fault => die 2 fault.message
  | .ok value => do
    sayOr 3 (value ++ "\n")
    mark (if Expr.isNull value then 1 else 0)

end AslBuild.Tools
