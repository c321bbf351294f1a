import AslBuild.Shell.Arithmetic.Basic
set_option autoImplicit false

/-!
# The tokens of calculations

## Main definitions

* `AslBuild.Shell.Symbol` — the tokens of an expression.
* `AslBuild.Shell.readNumber` — the number that a text starts with.
* `AslBuild.Shell.symbols` — the tokens that a text falls into.
-/

namespace AslBuild.Shell

/-- A token of an expression. -/
inductive Symbol
  | number (n : Int)
  | name (text : String)
  | sign (text : String)
  /-- What stands in brackets behind the name of a table. -/
  | key (text : String)
  /-- Something that is no token, and how many characters follow what has to be named of it. -/
  | wrong (problem : Problem) (unread : Nat)
  /-- The end. -/
  | finish
deriving DecidableEq

/-! ## Numbers -/

/-- The value of a digit, which is too large to be one if the character is none. -/
def digitOf (c : Char) : Nat :=
  if c.isDigit then c.toNat - 48
  else if 'a' ≤ c ∧ c ≤ 'z' then c.toNat - 87
  else if 'A' ≤ c ∧ c ≤ 'Z' then c.toNat - 55
  else 99

/-- The same in a base of up to 64. Beyond 36, small and large letters differ. -/
def digitIn (base : Nat) (c : Char) : Nat :=
  if 36 < base ∧ 'A' ≤ c ∧ c ≤ 'Z' then c.toNat - 29
  else if c = '@' then 62
  else if c = '_' then 63
  else digitOf c

/-- The number that some digits spell in a base. -/
def numberIn (base : Nat) (cs : List Char) : Nat :=
  cs.foldl (fun n c => n * base + digitIn base c) 0

/-- The greatest number. -/
def greatest : Int := 9223372036854775807

/-- The least number. -/
def least : Int := -9223372036854775808

/-- A number as it is in 64 bits. -/
def wrap (n : Int) : Int := Int.bmod n (Nat.pow 2 64)

/-- The number that some characters start with, and what follows it. A leading zero makes it octal,
and `0x` hexadecimal. A number that is too large becomes the greatest one. -/
def readNumber (cs : List Char) : Int × List Char :=
  let digits (base : Nat) (cs : List Char) : Int × List Char :=
    let ds := cs.takeWhile fun c => digitOf c < base
    (min (numberIn base ds : Int) greatest, cs.drop ds.length)
  match cs with
  | '0' :: x :: d :: rest =>
    if (x = 'x' ∨ x = 'X') ∧ digitOf d < 16 then digits 16 (d :: rest)
    else digits 8 cs
  | '0' :: _ => digits 8 cs
  | _ => digits 10 cs

/-- The value of a whole text that spells a number in the language with extensions, where a base may
stand in front of the digits. A number that is too large wraps around. -/
def extendedNumber (cs : List Char) : Except Problem Int :=
  let digits (base : Nat) (ds : List Char) : Except Problem Int :=
    if ds.all fun c => digitIn base c < base then .ok (wrap (numberIn base ds)) else .error .digit
  match cs with
  | '0' :: x :: ds => if x = 'x' ∨ x = 'X' then digits 16 ds else digits 8 (x :: ds)
  | _ =>
    let front := cs.takeWhile (· != '#')
    match cs.drop front.length with
    | [] => digits 10 cs
    | _ :: ds => do
      let base ← digits 10 front
      if base < 2 ∨ 64 < base then .error .base
      else if ds.isEmpty then .error .constant
      else digits base.toNat ds

/-- Whether a number in the language with extensions can go on with a character. -/
def continuesNumber (c : Char) : Bool := c.isAlphanum || c == '#' || c == '@' || c == '_'

/-! ## All tokens -/

/-- The signs, longer ones first. -/
def signs : List String :=
  ["<<=", ">>=", "**", "++", "--", "&&", "||", "<<", ">>", "<=", ">=", "==", "!=", "+=", "-=", "*=",
    "/=", "%=", "&=", "^=", "|=", "+", "-", "*", "/", "%", "<", ">", "=", "&", "^", "|", "!", "~",
    "?", ":", "(", ")", ",", "[", "]"]

/-- The signs that only the language with extensions has. -/
def extendedSigns : List String := ["**", "++", "--", ",", "[", "]"]

/-- What stands in front of the bracket that closes a subscript, with so many brackets open, and what
follows it. -/
def insideBrackets : Nat → List Char → List Char × List Char
  | _, [] => ([], [])
  | depth, c :: cs =>
    match c, depth with
    | ']', 0 => ([], cs)
    | c, depth =>
      let depth := if c = '[' then depth + 1 else if c = ']' then depth - 1 else depth
      let (inside, rest) := insideBrackets depth cs
      (c :: inside, rest)

/-- Whether a character separates tokens. -/
def isArithmeticBlank (c : Char) : Bool := c == ' ' || c == '\t' || c == '\n'

/-- How expressions are spelled. -/
structure Spelling where
  /-- Whether the language has extensions. -/
  extended : Bool := false
  /-- Which names are those of tables. -/
  isTable : String → Bool := fun _ => false

/-- The sign that a text starts with, given the token in front of it. Two signs that change a variable
by one belong together only next to a variable. -/
def signAt? (extended : Bool) (before : Symbol) (cs : List Char) : Option String :=
  match signs.find? fun s => s.toList.isPrefixOf cs && (extended || !extendedSigns.contains s) with
  | some s =>
    if s = "++" ∨ s = "--" then
      let afterVariable := match before with
        | .name _ | .sign "]" => true
        | _ => false
      let variableFollows := ((cs.drop 2).dropWhile isArithmeticBlank).head?.any fun c =>
        c.isAlpha || c == '_'
      some (if afterVariable || variableFollows then s else (s.take 1).toString)
    else some s
  | none => none

/-- The tokens of an expression, each with the text from it on, given the last one that was read and
the text from that on. At most so many are read. -/
def symbols (how : Spelling) : Nat → Symbol × List Char → List Char → List (Symbol × List Char)
  | 0, last, _ => [(.finish, last.2)]
  | _, last, [] => [(.finish, last.2)]
  | n + 1, last, c :: cs =>
    let add (s : Symbol) (rest : List Char) : List (Symbol × List Char) :=
      (s, c :: cs) :: symbols how n (s, c :: cs) rest
    if isArithmeticBlank c then symbols how n last cs
    else if c.isDigit then
      if how.extended then
        let spelled := (c :: cs).takeWhile continuesNumber
        let rest := (c :: cs).drop spelled.length
        match extendedNumber spelled with
        | .ok value => add (.number value) rest
        | .error problem => add (.wrong problem rest.length) rest
      else
        let (value, rest) := readNumber (c :: cs)
        add (.number value) rest
    else if c.isAlpha ∨ c = '_' then
      let rest := cs.dropWhile fun d => d.isAlphanum || d == '_'
      let name := String.ofList (c :: cs.takeWhile fun d => d.isAlphanum || d == '_')
      match rest, how.isTable name with
      | '[' :: more, true =>
        let (inside, rest) := insideBrackets 0 more
        (.name name, c :: cs) :: (.sign "[", c :: cs) :: (.key (String.ofList inside), c :: cs) ::
          add (.sign "]") rest
      | rest, _ => add (.name name) rest
    else
      match signAt? how.extended last.1 (c :: cs) with
      | some text => add (.sign text) ((c :: cs).drop text.length)
      | none =>
        let afterOperator := match last.1 with
          | .sign "]" | .sign ")" => false
          | .sign _ | .finish => true
          | _ => false
        add (.wrong (if afterOperator || !how.extended then .operand else .operator) 0) cs

end AslBuild.Shell
