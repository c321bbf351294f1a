import AslBuild.Shell.Grammar.Place
import AslBuild.Shell.Pattern
set_option autoImplicit false

/-!
# Reading words

## Main definitions

* `AslBuild.Shell.Reading.braced` — read a parameter in braces.
* `AslBuild.Shell.Reading.backquoted`, `AslBuild.Shell.Reading.bracketed` — read commands in words.
* `AslBuild.Shell.Reading.word` — read a word.
-/

namespace AslBuild.Shell

namespace Reading

/-! ## Parameters -/

/-- What the language with extensions says of something that is not closed: the line on which it was
opened, and the sign that is missing. -/
def unclosed (sign : Char) : String := "unclosed " ++ sign.toString

/-- The script ends before what was opened on a line is closed by a sign. -/
def endsInside {α : Type} (line : Nat) (sign : Char) (reason : String) : Reading α := do
  if (← Act.read).extended then refuseOn line (unclosed sign) else refuse reason

/-- What follows in single quotes, the opening one of which was read on a line, up to the closing
quote. -/
def singleQuoted (line : Nat) : Reading (List Char) := do
  let cs ← run (· != '\'')
  match ← lookHere with
  | none => endsInside line '\'' "Unterminated quoted string"
  | some _ =>
    skip
    pure cs

/-- The digits of a number in a base, at most so many of them, and what follows. -/
def digitsIn (base : Nat) : Nat → Nat → List Char → Nat × List Char
  | 0, value, cs => (value, cs)
  | _, value, [] => (value, [])
  | n + 1, value, c :: cs =>
    let digit :=
      if c.isDigit then c.toNat - 48
      else if 'a' ≤ c ∧ c ≤ 'f' then c.toNat - 87
      else if 'A' ≤ c ∧ c ≤ 'F' then c.toNat - 55
      else base
    if digit < base then digitsIn base n (value * base + digit) cs else (value, c :: cs)

/-- What a letter after a backslash stands for. -/
def letterEscape? (c : Char) : Option Char :=
  match c with
  | 'a' => some '\x07'
  | 'b' => some '\x08'
  | 'f' => some '\x0c'
  | 'n' => some '\n'
  | 'r' => some '\r'
  | 't' => some '\t'
  | 'v' => some '\x0b'
  | '\\' => some '\\'
  | _ => none

/-- The text in single quotes after a dollar sign, in which a backslash starts an escape, and what
follows the closing quote. At most so many steps are made. -/
def escapedText : Nat → List Char → Option (List Char × List Char)
  | 0, _ => none
  | _, [] => none
  | _ + 1, '\'' :: cs => some ([], cs)
  | n + 1, '\\' :: c :: cs =>
    let (value, rest) : List Char × List Char :=
      if c = 'x' then
        let (v, rest) := digitsIn 16 2 0 cs
        ([Char.ofNat (v % 256)], rest)
      else if '0' ≤ c ∧ c ≤ '7' then
        let (v, rest) := digitsIn 8 3 0 (c :: cs)
        ([Char.ofNat (v % 256)], rest)
      else if c = 'e' ∨ c = 'E' then (['\x1b'], cs)
      else if c = '\'' ∨ c = '"' ∨ c = '?' then ([c], cs)
      else match letterEscape? c with
        | some d => ([d], cs)
        | none => (['\\', c], cs)
    (escapedText n rest).map fun r => (value ++ r.1, r.2)
  | n + 1, c :: cs => (escapedText n cs).map fun r => (c :: r.1, r.2)

/-- A name, or as many digits. -/
def parameterName (c : Char) : Reading String := do
  if c.isDigit then pure (String.ofList (← run Char.isDigit))
  else pure (String.ofList (← run continuesName))

/-- The change that a colon asks for, of which the rest is read. -/
def colonChange (inner : Inner) (quoted : Bool) : Reading (Change Word) := do
  let word : Reading Word := inner.parts (.braces quoted)
  let extended := (← Act.read).extended
  match ← look with
  | some '-' =>
    skip
    pure (.orElse true (← word))
  | some '=' =>
    skip
    pure (.orAssign true (← word))
  | some '?' =>
    skip
    pure (.orFail true (← word))
  | some '+' =>
    skip
    pure (.andThen true (← word))
  | _ =>
    if extended then
      let start ← inner.parts (.upTo ':' true)
      if (← lookHere) = some '\x7d' then
        skip
        pure (.slice start none)
      else
        skip
        pure (.slice start (some (← word)))
    else
      let _ ← word
      pure .senseless

/-- The change that replaces parts of a value, the first slash of which was read. -/
def replacement (inner : Inner) : Reading (Change Word) := do
  let extent ← match ← look with
    | some '/' =>
      skip
      pure Extent.all
    | some '#' =>
      skip
      pure Extent.start
    | some '%' =>
      skip
      pure Extent.finish
    | _ => pure Extent.first
  let pattern ← inner.parts (.upTo '/' false)
  if (← lookHere) = some '\x7d' then
    skip
    pure (.replace extent pattern [])
  else
    skip
    pure (.replace extent pattern (← inner.parts (.braces false)))

/-- The change after the name of a parameter in braces. -/
def change (inner : Inner) (quoted : Bool) : Reading (Change Word) := do
  let word : Reading Word := inner.parts (.braces quoted)
  let pattern : Reading Word := inner.parts (.braces false)
  let extended := (← Act.read).extended
  match ← look with
  | some '\x7d' =>
    skip
    pure .plain
  | some ':' =>
    skip
    colonChange inner quoted
  | some '-' =>
    skip
    pure (.orElse false (← word))
  | some '=' =>
    skip
    pure (.orAssign false (← word))
  | some '?' =>
    skip
    pure (.orFail false (← word))
  | some '+' =>
    skip
    pure (.andThen false (← word))
  | some '%' =>
    skip
    let longest ← skipIf '%'
    pure (.cutEnd longest (← pattern))
  | some '#' =>
    skip
    let longest ← skipIf '#'
    pure (.cutStart longest (← pattern))
  | some c =>
    if extended && c == '/' then
      skip
      replacement inner
    else if extended && (c == '^' || c == ',' || c == '~') then
      skip
      let all ← skipIf c
      pure (.recase (if c = '^' then .upper else if c = ',' then .lower else .other) all (← pattern))
    else if extended && c == '@' then
      skip
      match (← Act.read).rest with
      | letter :: '\x7d' :: _ =>
        skip
        skip
        pure (if "QULuEPAKak".toList.contains letter then .form letter else .senseless)
      | _ =>
        let _ ← word
        pure .senseless
    else
      skipUncounted
      let _ ← word
      pure .senseless
  | none =>
    let _ ← word
    pure .senseless

/-- The subscript of a parameter in braces. -/
def subscript? (inner : Inner) : Reading (Option Word) := do
  if (← Act.read).extended && (← look) = some '[' then
    skip
    pure (some (← inner.parts .subscript))
  else pure none

/-- The part of a parameter in braces, after its name. -/
def parameterAfter (inner : Inner) (name : String) (quoted inQuotes : Bool) : Reading Part := do
  let subscript ← subscript? inner
  let change ← change inner inQuotes
  pure (.parameter name subscript change quoted)

/-- A part that makes no sense, up to the closing brace. -/
def senselessPart (inner : Inner) (quoted inQuotes : Bool) : Reading Part := do
  let _ ← inner.parts (.braces inQuotes)
  pure (.parameter "" none .senseless quoted)

/-- The length of the parameter whose name is next. -/
def lengthPart (inner : Inner) (c : Char) (quoted inQuotes : Bool) : Reading Part := do
  let name ← parameterName c
  let subscript ← subscript? inner
  if ← skipIf '\x7d' then pure (.parameter name subscript .length quoted)
  else senselessPart inner quoted inQuotes

/-- The parameter after a hash sign in braces: a length, or the number of arguments. -/
def afterHash (inner : Inner) (quoted inQuotes : Bool) : Reading Part := do
  match ← look with
  | some '\x7d' =>
    skip
    pure (.parameter "#" none .plain quoted)
  | some c =>
    if continuesName c then lengthPart inner c quoted inQuotes
    else
      match (← Act.read).rest with
      | _ :: '\x7d' :: _ =>
        skip
        skip
        if isSpecial c then pure (.parameter c.toString none .length quoted)
        else pure (.parameter "" none .senseless quoted)
      | _ => parameterAfter inner "#" quoted inQuotes
  | none => senselessPart inner quoted inQuotes

/-- The parameter after an exclamation mark in braces: the one that another one names, the
subscripts of a list, or the number of the last command in the background. -/
def afterMark (inner : Inner) (quoted inQuotes : Bool) : Reading Part := do
  match ← look with
  | some c =>
    match (← Act.read).extended, continuesName c, (← Act.read).rest with
    | true, true, _ =>
      let name ← parameterName c
      let subscript ← subscript? inner
      match (← Act.read).rest with
      | '*' :: '\x7d' :: _ =>
        skip
        skip
        pure (.parameter name none (.names true) quoted)
      | '@' :: '\x7d' :: _ =>
        skip
        skip
        pure (.parameter name none (.names false) quoted)
      | _ =>
        match ← change inner inQuotes with
        | .plain =>
          pure (.parameter name subscript
            (if subscript.isSome then .subscripts else .indirect .plain) quoted)
        | more => pure (.parameter name subscript (.indirect more) quoted)
    | true, false, '#' :: '\x7d' :: _ =>
      skip
      skip
      pure (.parameter "#" none (.indirect .plain) quoted)
    | _, _, _ => parameterAfter inner "!" quoted inQuotes
  | none => senselessPart inner quoted inQuotes

/-- The parameter in braces, the opening one of which was read. `inQuotes` says whether double
quotes are around it. -/
def braced (inner : Inner) (quoted inQuotes : Bool) : Reading Part := do
  match ← look with
  | none => senselessPart inner quoted inQuotes
  | some c =>
    if startsName c || c.isDigit then
      let name ← parameterName c
      parameterAfter inner name quoted inQuotes
    else if c = '\x7d' then
      skip
      pure (.parameter "" none .senseless quoted)
    else
      skip
      if c = '#' then afterHash inner quoted inQuotes
      else if c = '!' then afterMark inner quoted inQuotes
      else if isSpecial c then parameterAfter inner c.toString quoted inQuotes
      else senselessPart inner quoted inQuotes

/-! ## Commands in words -/

/-- What is inside of backquotes whose opening one was read, and what follows the closing one. -/
def insideBackquotes (quoted : Bool) : List Char → Option (List Char × List Char)
  | [] => none
  | '\x60' :: cs => some ([], cs)
  | '\\' :: c :: cs =>
    (insideBackquotes quoted cs).map fun r =>
      if c = '\n' then r
      else if "\x60$\\".toList.contains c || (quoted && c == '"') then (c :: r.1, r.2)
      else ('\\' :: c :: r.1, r.2)
  | c :: cs => (insideBackquotes quoted cs).map fun r => (c :: r.1, r.2)

/-- Read something from other characters, and go on where this was. -/
def elsewhere {α : Type} (cs : List Char) (line : Nat) (x : Reading α) : Reading α := do
  let s ← Act.read
  Act.update fun s => { s with rest := cs, line, back := none, awaited := [] }
  let a ← x
  Act.update fun t =>
    { t with rest := s.rest, line := s.line, back := s.back, last := s.last, awaited := s.awaited }
  pure a

/-- The commands in backquotes, the opening one of which was read. Their lines are counted anew. -/
def backquoted (inner : Inner) (quoted : Bool) : Reading Command := do
  let s ← Act.read
  match insideBackquotes quoted s.rest with
  | none =>
    Act.update fun s => { s with rest := [], line := s.line + s.rest.count '\n' }
    refuse "EOF in backquote substitution"
  | some (body, rest) =>
    let used := s.rest.take (s.rest.length - rest.length)
    Act.update fun s => { s with rest, line := s.line + used.count '\n' }
    elsewhere body 1 inner.clause

/-- The commands in brackets, the opening one of which was read. -/
def bracketed (inner : Inner) : Reading Command := do
  let s ← Act.read
  Act.update fun s => { s with back := none, awaited := [] }
  let body ← inner.clause
  let t ← Act.read
  match t.back with
  | some .closeGroup =>
    Act.update fun t => { t with back := s.back, last := s.last, awaited := s.awaited }
    pure body
  | some .finish =>
    if s.extended then refuseOn s.line (unclosed ')') else unexpected (some "\")\"")
  | _ => unexpected (some "\")\"")

/-- The part that a dollar sign starts, which was read. -/
def dollar (inner : Inner) (m : Mode) : Reading Part := do
  let quoted := m.quotes
  match ← look with
  | some '(' =>
    skip
    if ← skipIf '(' then pure (.arithmetic (← inner.parts (.arithmetic 0)) quoted)
    else pure (.output (← bracketed inner) quoted)
  | some '\x7b' =>
    skip
    let before := (← Act.read).rest
    match ← braced inner quoted quoted with
    | .parameter _ subscript .senseless q =>
      let read := before.take (before.length - (← Act.read).rest.length)
      pure (.parameter ("$\x7b" ++ String.ofList read) subscript .senseless q)
    | p => pure p
  | some c =>
    if startsName c then pure (.parameter (← parameterName c) none .plain quoted)
    else if isSpecial c then
      skip
      pure (.parameter c.toString none .plain quoted)
    else pure (.text ['$'] quoted)
  | none => pure (.text ['$'] quoted)

/-! ## Words -/

/-- The parts that a sign with a meaning of its own starts, and the other parts of the word. -/
def sign (inner : Inner) (m : Mode) (c : Char) : Reading Word := do
  let line := (← Act.read).line
  let more (p : Part) : Reading Word := do pure (p :: (← inner.parts m))
  if m.mark? = some c then
    skip
    pure []
  else match c with
  | '\\' =>
    skip
    match ← lookHere with
    | none => more (.text ['\\'] true)
    | some d =>
      skip
      more (.text (if m.escapes d then [d] else ['\\', d]) true)
  | '$' =>
    skip
    let extended := (← Act.read).extended
    match extended && m.knowsQuotes, ← look with
    | true, some '\'' =>
      skip
      match escapedText (← bound) (← Act.read).rest with
      | some (cs, rest) =>
        Act.update fun s => { s with rest }
        more (.text cs true)
      | none => endsInside line '\'' "Unterminated quoted string"
    | true, some '"' => inner.parts m
    | _, _ => more (← dollar inner m)
  | '\x60' =>
    skip
    let body ← backquoted inner m.quotes
    more (.output body m.quotes)
  | '\'' =>
    skip
    more (.text (← singleQuoted line) true)
  | '"' =>
    skip
    match m with
    | .arithmetic _ | .part _ => inner.parts m
    | _ =>
      let quoted ← inner.parts (.quoted line)
      pure (.text [] true :: quoted ++ (← inner.parts m))
  | '(' =>
    skip
    match m with
    | .arithmetic depth => pure (.text ['('] true :: (← inner.parts (.arithmetic (depth + 1))))
    | .part depth => pure (.text ['('] true :: (← inner.parts (.part (depth + 1))))
    | .group depth => pure (.text ['('] false :: (← inner.parts (.group (depth + 1))))
    | _ => more (.text ['('] m.quotes)
  | ')' =>
    skip
    match m with
    | .arithmetic (depth + 1) => pure (.text [')'] true :: (← inner.parts (.arithmetic depth)))
    | .arithmetic 0 =>
      if ← skipIf ')' then pure [] else more (.text [')'] true)
    | .part (depth + 1) => pure (.text [')'] true :: (← inner.parts (.part depth)))
    | .group (depth + 1) => pure (.text [')'] false :: (← inner.parts (.group depth)))
    | .group 0 => pure (.text [')'] false :: (← inner.parts .bare))
    | _ => more (.text [')'] m.quotes)
  | c =>
    skip
    more (.text [c] m.quotes)

/-- The parts of a word that are left. -/
def parts (inner : Inner) (m : Mode) : Reading Word := do
  match ← look with
  | none =>
    match m.openReason? with
    | some (line, sign, reason) => endsInside (line.getD (← Act.read).line) sign reason
    | none => pure []
  | some c =>
    if m.isPlain c then
      let cs ← run m.isPlain
      let opens := m = .bare && (← Act.read).groups && cs.getLast?.any groupSigns.contains &&
        (← lookHere) = some '('
      if opens then
        skip
        pure (.text (cs ++ ['(']) false :: (← inner.parts (.group 0)))
      else pure (.text cs m.quotes :: (← inner.parts m))
    else if m = .bare ∧ endsWord c then
      if ← startsChannel then
        let isRead := (← look) = some '>'
        skip
        skip
        let body ← bracketed inner
        pure (.channel body isRead :: (← inner.parts m))
      else pure []
    else
      match m with
      | .upTo mark _ => if c = mark ∨ c = '\x7d' then pure [] else sign inner m c
      | _ => sign inner m c

/-- A word. -/
def word (inner : Inner) : Reading Word := inner.parts .bare


end Reading

end AslBuild.Shell
