import AslBuild.Text.Rich.Basic
set_option autoImplicit false

/-!
# Reading rich expressions

## Main definitions

* `AslBuild.Text.Rich.Defect` — why a text is no expression.
* `AslBuild.Text.Rich.Reading` — a step of reading.
* `AslBuild.Text.Rich.ofChars` — the expression that a text spells.
-/

namespace AslBuild.Text.Rich

/-! ## Defects -/

/-- Why a text is no expression. -/
inductive Defect
  | openGroup
  | closedGroup
  | openSet
  | openComment
  | nothingToRepeat
  | countsOutOfOrder
  | countTooBig
  | escapeAtEnd
  | unknownEscape
  | unsupportedEscape
  | unsupportedName
  | escapeInSet
  | anythingInSet
  | controlAtEnd
  | badHex
  | badOctal
  | openOctal
  | codeTooBig
  | badReferenceNumber
  | badReferenceName
  | noSuchPart
  | badProperty
  | unknownProperty
  | unknownClass
  | classOutside
  | collating
  | rangeOutOfOrder
  | badRange
  | nameExpected
  | nameStartsWithDigit
  | openName
  | sameName
  | unknownFlag
  | unknownNamed
  | unknownVerb
  | farBehind
  | tooManyBranches
  | badCondition
deriving DecidableEq

/-- The text of a defect. -/
def Defect.message : Defect → String
  | .openGroup => "missing closing parenthesis"
  | .closedGroup => "unmatched closing parenthesis"
  | .openSet => "missing terminating ] for character class"
  | .openComment => "missing ) after (?# comment"
  | .nothingToRepeat => "quantifier does not follow a repeatable item"
  | .countsOutOfOrder => "numbers out of order in \x7b\x7d quantifier"
  | .countTooBig => "number too big in \x7b\x7d quantifier"
  | .escapeAtEnd => "\\ at end of pattern"
  | .unknownEscape => "unrecognized character follows \\"
  | .unsupportedEscape => "PCRE2 does not support \\F, \\L, \\l, \\N\x7bname\x7d, \\U, or \\u"
  | .unsupportedName => "\\N\x7bU+dddd\x7d is supported only in Unicode (UTF) mode"
  | .escapeInSet => "escape sequence is invalid in character class"
  | .anythingInSet => "\\N is not supported in a class"
  | .controlAtEnd => "\\c at end of pattern"
  | .badHex => "non-hex character in \\x\x7b\x7d (closing brace missing?)"
  | .badOctal => "non-octal character in \\o\x7b\x7d (closing brace missing?)"
  | .openOctal => "missing opening brace after \\o"
  | .codeTooBig => "character code point value in \\x\x7b\x7d or \\o\x7b\x7d is too large"
  | .badReferenceNumber => "\\g is not followed by a braced, angle-bracketed, or quoted " ++
      "name/number or by a plain number"
  | .badReferenceName => "\\k is not followed by a braced, angle-bracketed, or quoted name"
  | .noSuchPart => "reference to non-existent subpattern"
  | .badProperty => "malformed \\P or \\p sequence"
  | .unknownProperty => "unknown property after \\P or \\p"
  | .unknownClass => "unknown POSIX class name"
  | .classOutside => "POSIX named classes are supported only within a class"
  | .collating => "POSIX collating elements are not supported"
  | .rangeOutOfOrder => "range out of order in character class"
  | .badRange => "invalid range in character class"
  | .nameExpected => "subpattern name expected"
  | .nameStartsWithDigit => "subpattern name must start with a non-digit"
  | .openName => "syntax error in subpattern name (missing terminator?)"
  | .sameName => "two named subpatterns have the same name (PCRE2_DUPNAMES not set)"
  | .unknownFlag => "unrecognized character after (? or (?-"
  | .unknownNamed => "unrecognized character after (?P"
  | .unknownVerb => "(*VERB) not recognized or malformed"
  | .farBehind => "lookbehind assertion is not fixed length"
  | .tooManyBranches => "conditional subpattern contains more than two branches"
  | .badCondition => "assertion expected after (?( or (?(?C)"

/-! ## Reading -/

/-- How what is read is meant. -/
structure Flags where
  /-- Whether case does not matter. -/
  ignoresCase : Bool := false
  /-- Whether the signs for the ends of the text mean the ends of lines. -/
  byLines : Bool := false
  /-- Whether the dot stands for the end of a line as well. -/
  dotsAll : Bool := false
  /-- Whether blanks and comments do not count. -/
  spaced : Bool := false
  /-- Whether what is repeated wants as little as possible. -/
  lazy : Bool := false
  /-- Whether groups without names have no numbers. -/
  namedOnly : Bool := false

/-- A part that something refers to. -/
inductive Reference
  | number (n : Nat)
  | name (text : String)
deriving DecidableEq

/-- What is left to be read, and what was found out so far. -/
structure Rest where
  /-- The characters that are left. -/
  chars : List Char
  /-- How what is read is meant. -/
  flags : Flags := {}
  /-- Whether characters stand for themselves for now. -/
  literal : Bool := false
  /-- How many parts were opened. -/
  opened : Nat := 0
  /-- The names of parts. -/
  names : List (String × Nat) := []
  /-- How deep groups are nested here. -/
  depth : Nat := 0
  /-- The parts that are referred to. -/
  wanted : List Reference := []
  /-- The names that all parts have, as far as that is known in advance. -/
  known : List (String × Nat) := []

/-- A step of reading. -/
abbrev Reading (α : Type) : Type := Act Defect Rest α

/-- The characters that are left. -/
def left : Reading (List Char) := do pure (← Act.read).chars

/-- Go on from here. -/
def goOn (cs : List Char) : Reading Unit := Act.update fun r => { r with chars := cs }

/-- A character with a property; in either case if case does not matter. -/
def oneOf (flags : Flags) (test : Char → Bool) : Rich :=
  if flags.ignoresCase then .one fun c => test c || test c.toLower || test c.toUpper else .one test

/-- A character that stands for itself. -/
def same (flags : Flags) (c : Char) : Rich := oneOf flags (· == c)

/-- Whether a character is a blank. -/
def isSpace (c : Char) : Bool := c == ' ' || (0x09 ≤ c.toNat && c.toNat ≤ 0x0D)

/-- Whether a character is a blank within a line. -/
def isLevel (c : Char) : Bool := c == ' ' || c == '\t' || c.toNat == 0xA0

/-- Whether a character ends a line. -/
def isUpright (c : Char) : Bool := (0x0A ≤ c.toNat && c.toNat ≤ 0x0D) || c.toNat == 0x85

/-- The class of characters that the letter after a backslash stands for. -/
def classLetter? (c : Char) : Option (Char → Bool) :=
  match c with
  | 'd' => some Char.isDigit
  | 'D' => some fun c => !c.isDigit
  | 'w' => some isWordChar
  | 'W' => some fun c => !isWordChar c
  | 's' => some isSpace
  | 'S' => some fun c => !isSpace c
  | 'h' => some isLevel
  | 'H' => some fun c => !isLevel c
  | 'v' => some isUpright
  | 'V' => some fun c => !isUpright c
  | _ => none

/-- The character that a letter after a backslash stands for. -/
def characterLetter? (c : Char) : Option Char :=
  match c with
  | 'a' => some '\x07'
  | 'e' => some '\x1b'
  | 'f' => some '\x0c'
  | 'n' => some '\n'
  | 'r' => some '\r'
  | 't' => some '\t'
  | _ => none

/-- Whether a character has the property of a name; nothing if there is no such property. -/
def property? (name : String) : Option (Char → Bool) :=
  let isSign (c : Char) : Bool := "$+<=>^\x60|~".toList.contains c
  let isPunct (c : Char) : Bool :=
    0x20 < c.toNat && c.toNat < 0x7F && !c.isAlphanum && !isSign c
  match name with
  | "Any" => some fun _ => true
  | "L" | "L&" => some Char.isAlpha
  | "Lu" => some Char.isUpper
  | "Ll" => some Char.isLower
  | "Lt" | "Lm" | "Lo" | "M" | "Mn" | "Mc" | "Me" | "Nl" | "No" => some fun _ => false
  | "N" | "Nd" => some Char.isDigit
  | "P" => some isPunct
  | "Pd" => some (· == '-')
  | "Ps" => some fun c => "([\x7b".toList.contains c
  | "Pe" => some fun c => ")]\x7d".toList.contains c
  | "Pc" => some (· == '_')
  | "Po" => some fun c => isPunct c && !"-([\x7b)]\x7d_".toList.contains c
  | "S" => some isSign
  | "Sc" => some (· == '$')
  | "Sk" => some fun c => c == '^' || c == '\x60'
  | "Sm" => some fun c => "+<=>|~".toList.contains c
  | "So" => some fun _ => false
  | "Z" | "Zs" => some (· == ' ')
  | "Zl" | "Zp" => some fun _ => false
  | "C" | "Cc" => some fun c => c.toNat < 0x20 || c.toNat == 0x7F
  | "Xan" => some Char.isAlphanum
  | "Xsp" | "Xps" => some isSpace
  | "Xwd" => some isWordChar
  | _ => none

/-- The number that digits to a base spell. -/
def numberOf (base : Nat) (ds : List Char) : Nat :=
  ds.foldl (fun n c =>
    n * base + (if c.isDigit then c.toNat - 48 else c.toLower.toNat - 97 + 10)) 0

/-- Whether a character is a digit to base eight. -/
def isOctal (c : Char) : Bool := '0' ≤ c && c ≤ '7'

/-- Whether a character is a digit to base sixteen. -/
def isHex (c : Char) : Bool := ((classOf? "xdigit").map (· c)).getD false

/-- The character of a code. -/
def coded (n : Nat) : Reading Char :=
  if 0xFF < n then Act.fail .codeTooBig else pure (Char.ofNat n)

/-- A character between braces, of which the digits have a property. -/
def braced (base : Nat) (isOne : Char → Bool) (defect : Defect) (cs : List Char) : Reading Char := do
  let ds := cs.takeWhile isOne
  match ds, cs.drop ds.length with
  | [], _ => Act.fail defect
  | ds, '\x7d' :: rest => do
    goOn rest
    coded (numberOf base ds)
  | _, _ => Act.fail defect

/-- The character that an escape stands for, of which the backslash was read, if it is one that
stands for a character both in sets and outside. -/
def characterEscape : Reading (Option Char) := do
  match ← left with
  | [] => Act.fail .escapeAtEnd
  | 'x' :: '\x7b' :: cs => do pure (some (← braced 16 isHex .badHex cs))
  | 'x' :: cs => do
    let ds := (cs.take 2).takeWhile isHex
    goOn (cs.drop ds.length)
    pure (some (Char.ofNat (numberOf 16 ds)))
  | 'o' :: '\x7b' :: cs => do pure (some (← braced 8 isOctal .badOctal cs))
  | 'o' :: _ => Act.fail .openOctal
  | 'c' :: [] => Act.fail .controlAtEnd
  | 'c' :: c :: cs => do
    goOn cs
    pure (some (Char.ofNat (c.toUpper.toNat ^^^ 0x40)))
  | '0' :: cs => do
    let ds := (cs.take 2).takeWhile isOctal
    goOn (cs.drop ds.length)
    pure (some (Char.ofNat (numberOf 8 ds)))
  | c :: cs =>
    match characterLetter? c with
    | some d => do
      goOn cs
      pure (some d)
    | none =>
      if "FLlUu".toList.contains c then Act.fail .unsupportedEscape
      else if c.isAlphanum then pure none
      else do
        goOn cs
        pure (some c)

/-- A property of characters, of which the letter was read. -/
def property (negated : Bool) : Reading (Char → Bool) := do
  let (name, rest) ← match ← left with
    | '\x7b' :: cs =>
      match cs.span (· != '\x7d') with
      | (name, '\x7d' :: rest) => pure (name, rest)
      | _ => Act.fail .badProperty
    | c :: cs => pure ([c], cs)
    | [] => Act.fail .badProperty
  goOn rest
  let (negated, name) := match name with
    | '^' :: name => (!negated, name)
    | name => (negated, name)
  match property? (String.ofList name) with
  | some test => pure fun c => test c != negated
  | none => Act.fail .unknownProperty

/-! ## Sets -/

/-- The name of a class in a set and what follows it, if there is one; `[:` was read. -/
def className? (cs : List Char) : Option (Bool × List Char × List Char) :=
  let (negated, cs) := match cs with
    | '^' :: cs => (true, cs)
    | cs => (false, cs)
  let name := cs.takeWhile Char.isAlpha
  match cs.drop name.length with
  | ':' :: ']' :: rest => some (negated, name, rest)
  | _ => none

/-- Whether a name between signs follows that ends with the sign it starts with. -/
def isNamed (sign : Char) (cs : List Char) : Bool :=
  let inner := cs.takeWhile fun c => c != sign && c != ']'
  match cs.drop inner.length with
  | a :: ']' :: _ => a == sign
  | _ => false

/-- A member of a set: one character, or several. -/
inductive SetMember
  | character (c : Char)
  | several (test : Char → Bool)

/-- A member of a set. -/
def member : Reading SetMember := do
  match ← left with
  | '\\' :: c :: cs => do
    goOn cs
    match classLetter? c with
    | some test => pure (.several test)
    | none =>
      match c with
      | 'b' => pure (.character '\x08')
      | 'N' => Act.fail .anythingInSet
      | 'B' | 'R' | 'X' => Act.fail .escapeInSet
      | 'p' => do pure (.several (← property false))
      | 'P' => do pure (.several (← property true))
      | c => do
        if isOctal c then
          let ds := (c :: cs.take 2).takeWhile isOctal
          goOn ((c :: cs).drop ds.length)
          pure (.character (Char.ofNat (numberOf 8 ds % 256)))
        else
          goOn (c :: cs)
          match ← characterEscape with
          | some c => pure (.character c)
          | none => Act.fail .unknownEscape
  | '\\' :: [] => Act.fail .escapeAtEnd
  | '[' :: ':' :: cs =>
    match className? cs with
    | some (negated, name, rest) => do
      goOn rest
      let name := String.ofList name
      let test? := if name = "word" then some isWordChar else classOf? name
      match test? with
      | some test => pure (.several fun c => test c != negated)
      | none => Act.fail .unknownClass
    | none => do
      goOn (':' :: cs)
      pure (.character '[')
  | '[' :: c :: cs => do
    if (c == '.' || c == '=') && isNamed c cs then Act.fail .collating
    goOn (c :: cs)
    pure (.character '[')
  | c :: cs => do
    goOn cs
    pure (.character c)
  | [] => Act.fail .openSet

/-- The members of a set up to its end. At most so many are read. -/
def membersFrom : Nat → Bool → (Char → Bool) → Reading (Char → Bool)
  | 0, _, _ => Act.fail .openSet
  | n + 1, started, test => do
    let add (more : Char → Bool) : Reading (Char → Bool) :=
      membersFrom n true fun c => test c || more c
    if (← Act.read).literal then
      match ← left with
      | '\\' :: 'E' :: cs => do
        Act.update fun r => { r with chars := cs, literal := false }
        membersFrom n started test
      | c :: cs => do
        goOn cs
        add (· == c)
      | [] => Act.fail .openSet
    else
      match ← left with
      | [] => Act.fail .openSet
      | '\\' :: 'E' :: cs => do
        goOn cs
        membersFrom n started test
      | '\\' :: 'Q' :: cs => do
        Act.update fun r => { r with chars := cs, literal := true }
        membersFrom n started test
      | ']' :: cs =>
        if started then do
          goOn cs
          pure test
        else do
          goOn cs
          add (· == ']')
      | _ =>
        match ← member with
        | .several more =>
          match ← left with
          | '-' :: c :: _ => if c = ']' then add more else Act.fail .badRange
          | _ => add more
        | .character a =>
          match ← left with
          | '-' :: ']' :: _ => add (· == a)
          | '-' :: c :: cs => do
            goOn (c :: cs)
            match ← member with
            | .several _ => Act.fail .badRange
            | .character b =>
              if b < a then Act.fail .rangeOutOfOrder else add fun c => a ≤ c && c ≤ b
          | _ => add (· == a)

/-- A set of characters, the opening bracket of which was read. -/
def set : Reading Rich := do
  let (negated, cs) := match ← left with
    | '^' :: cs => (true, cs)
    | cs => (false, cs)
  goOn cs
  let test ← membersFrom (2 * cs.length + 2) false fun _ => false
  let flags := (← Act.read).flags
  let test := if flags.ignoresCase then fun c => test c || test c.toLower || test c.toUpper
    else test
  pure (.one fun c => test c != negated)

/-! ## Names and references -/

/-- A name that some character ends. -/
def nameUpTo (close : Char) : Reading String := do
  let cs ← left
  match cs with
  | [] => Act.fail .nameExpected
  | c :: _ =>
    if c.isDigit then Act.fail .nameStartsWithDigit
    let name := cs.takeWhile isWordChar
    if name.isEmpty then Act.fail .nameExpected
    match cs.drop name.length with
    | d :: rest =>
      if d != close then Act.fail .openName
      goOn rest
      pure (String.ofList name)
    | [] => Act.fail .openName

/-- Remember that something refers to a part. -/
def want (r : Reference) : Reading Unit := Act.update fun s => { s with wanted := s.wanted ++ [r] }

/-- The number of the part with a name. -/
def numberNamed (name : String) : Reading Nat := do
  pure (((← Act.read).known.lookup name).getD 0)

/-- The text that a part matched. -/
def backTo (r : Reference) : Reading Rich := do
  want r
  let ignoresCase := (← Act.read).flags.ignoresCase
  match r with
  | .number n => pure (.again n ignoresCase)
  | .name text => do pure (.again (← numberNamed text) ignoresCase)

/-- The number of a part that is counted from here. -/
def countedFrom (sign : Option Char) (n : Nat) : Reading Nat := do
  let opened := (← Act.read).opened
  match sign with
  | some '-' => if opened < n ∨ n = 0 then Act.fail .noSuchPart else pure (opened + 1 - n)
  | some _ => pure (opened + n)
  | none => pure n

/-- A number with a sign in front of it perhaps, and what follows. -/
def signedNumber? (cs : List Char) : Option (Option Char × Nat × List Char) :=
  let (sign, cs) := match cs with
    | '-' :: cs => (some '-', cs)
    | '+' :: cs => (some '+', cs)
    | cs => (none, cs)
  let ds := cs.takeWhile Char.isDigit
  if ds.isEmpty then none else some (sign, numberOf 10 ds, cs.drop ds.length)

/-- What ends what an opening sign starts. -/
def closing : Char → Char
  | '<' => '>'
  | '\x7b' => '\x7d'
  | c => c

/-- A reference to a part by its number or name, of which the letter `g` was read. -/
def gReference : Reading Rich := do
  let cs ← left
  match signedNumber? cs with
  | some (sign, n, rest) => do
    goOn rest
    let n ← countedFrom sign n
    backTo (.number n)
  | none =>
    match cs with
    | open_ :: cs => do
      if !"\x7b<'".toList.contains open_ then Act.fail .badReferenceNumber
      match signedNumber? cs with
      | some (sign, n, d :: rest) => do
        if d != closing open_ then Act.fail .badReferenceNumber
        goOn rest
        let n ← countedFrom sign n
        if open_ = '\x7b' then backTo (.number n)
        else
          want (.number n)
          pure (.call n)
      | some _ => Act.fail .badReferenceNumber
      | none => do
        goOn cs
        let name ← nameUpTo (closing open_)
        if open_ = '\x7b' then backTo (.name name)
        else
          want (.name name)
          pure (.call (← numberNamed name))
    | [] => Act.fail .badReferenceNumber

/-! ## Items -/

/-- An escape, of which the backslash was read, and whether it can be repeated. -/
def escape : Reading (Rich × Bool) := do
  let flags := (← Act.read).flags
  match ← left with
  | [] => Act.fail .escapeAtEnd
  | c :: cs =>
    match classLetter? c with
    | some test => do
      goOn cs
      pure (.one test, true)
    | none =>
      let place (r : Rich) : Reading (Rich × Bool) := do
        goOn cs
        pure (r, false)
      let item (r : Rich) : Reading (Rich × Bool) := do
        goOn cs
        pure (r, true)
      match c with
      | 'b' => place (.anchor (.wordEdge true))
      | 'B' => place (.anchor (.wordEdge false))
      | 'A' => place (.anchor .start)
      | 'z' => place (.anchor .finish)
      | 'Z' => place .lastEnd
      | 'G' => place .origin
      | 'K' => place .keep
      | 'C' | 'X' => item (.one fun _ => true)
      | 'N' =>
        match cs with
        | '\x7b' :: 'U' :: '+' :: _ => Act.fail .unsupportedName
        | '\x7b' :: d :: _ =>
          if d.isDigit then item (.one (· != '\n')) else Act.fail .unsupportedEscape
        | _ => item (.one (· != '\n'))
      | 'R' => item (.single (.alt (ofText "\r\n") (.one isUpright)))
      | 'p' => do
        goOn cs
        pure (oneOf flags (← property false), true)
      | 'P' => do
        goOn cs
        pure (oneOf flags (← property true), true)
      | 'g' => do
        goOn cs
        pure (← gReference, true)
      | 'k' =>
        match cs with
        | open_ :: cs => do
          if !"\x7b<'".toList.contains open_ then Act.fail .badReferenceName
          goOn cs
          let name ← nameUpTo (closing open_)
          pure (← backTo (.name name), true)
        | [] => Act.fail .badReferenceName
      | _ =>
        let ds := (c :: cs).takeWhile Char.isDigit
        let n := numberOf 10 ds
        if c.isDigit && c != '0' && (n < 10 || '8' ≤ c || n ≤ (← Act.read).opened) then do
          goOn ((c :: cs).drop ds.length)
          pure (← backTo (.number n), true)
        else if c.isDigit && c != '0' then do
          let ds := ((c :: cs).take 3).takeWhile isOctal
          goOn ((c :: cs).drop ds.length)
          pure (same flags (Char.ofNat (numberOf 8 ds % 256)), true)
        else
          match ← characterEscape with
          | some d => pure (same flags d, true)
          | none => Act.fail .unknownEscape

/-- Read up to the end of a group. -/
def close : Reading Unit := do
  match ← left with
  | ')' :: cs => goOn cs
  | _ => Act.fail .openGroup

/-- What stands inside a group, up to its end. Flags that are changed inside count there only. -/
def inGroup (inner : Bool → Reading Rich) (renumbers : Bool) : Reading Rich := do
  let flags := (← Act.read).flags
  Act.update fun r => { r with depth := r.depth + 1 }
  let a ← inner renumbers
  close
  Act.update fun r => { r with depth := r.depth - 1, flags }
  pure a

/-- A group with a number, and perhaps a name. -/
def numbered (inner : Bool → Reading Rich) (name : Option String) : Reading Rich := do
  let r ← Act.read
  let number := r.opened + 1
  match name with
  | some text =>
    match r.names.lookup text with
    | some n => if n != number then Act.fail .sameName
    | none => Act.update fun r => { r with names := (text, number) :: r.names }
  | none => pure ()
  Act.update fun r => { r with opened := number }
  let a ← inGroup inner false
  pure (.group number a)

/-- Flags with a letter switched on or off, if the letter is one. -/
def Flags.change? (f : Flags) (on : Bool) (c : Char) : Option Flags :=
  match c with
  | 'i' => some { f with ignoresCase := on }
  | 'm' => some { f with byLines := on }
  | 's' => some { f with dotsAll := on }
  | 'x' => some { f with spaced := on }
  | 'U' => some { f with lazy := on }
  | 'n' => some { f with namedOnly := on }
  | 'J' => some f
  | _ => none

/-- Flags that letters change, and what follows the letters. -/
def flagsFrom : Flags → Bool → List Char → Except Defect (Flags × List Char)
  | _, _, [] => .error .openGroup
  | f, on, c :: cs =>
    if c = ')' ∨ c = ':' then .ok (f, c :: cs)
    else if c = '-' ∧ on then flagsFrom f false cs
    else match f.change? on c with
      | some f => flagsFrom f on cs
      | none => .error .unknownFlag

/-- An alternative for the case that a condition fits, and one for the case that it does not. -/
def byCondition (inner : Bool → Reading Rich) (condition : Rich) : Reading Rich := do
  let body ← inGroup inner false
  match choices body with
  | [a] => pure (.either condition a .empty)
  | [a, b] => pure (.either condition a b)
  | _ => Act.fail .tooManyBranches

/-- A condition that asks for a part, of which the opening bracket was read. -/
def partCondition : Reading Rich := do
  let cs ← left
  match signedNumber? cs with
  | some (sign, n, rest) => do
    goOn rest
    let n ← countedFrom sign n
    want (.number n)
    close
    pure (.isSet n)
  | none => do
    let named (open_ : Option Char) : Reading String := match open_ with
      | some c => nameUpTo (closing c)
      | none => do
        let name := cs.takeWhile isWordChar
        goOn (cs.drop name.length)
        pure (String.ofList name)
    let name ← match cs with
      | '<' :: rest => do
        goOn rest
        named (some '<')
      | '\'' :: rest => do
        goOn rest
        named (some '\'')
      | _ => named none
    if name.isEmpty then Act.fail .badCondition
    close
    if name = "DEFINE" ∨ name = "R" then pure .never
    else
      want (.name name)
      pure (.isSet (← numberNamed name))

/-- A group, of which the opening bracket was read; nothing if it only changes how the rest is
read. -/
def bracketed (inner : Bool → Reading Rich) : Reading (Option Rich) := do
  let called (r : Reference) : Reading (Option Rich) := do
    want r
    close
    match r with
    | .number n => pure (some (.call n))
    | .name text => do pure (some (.call (← numberNamed text)))
  let looking (rest : List Char) (wrap : Rich → Rich) : Reading (Option Rich) := do
    goOn rest
    pure (some (wrap (← inGroup inner false)))
  match ← left with
  | '*' :: c :: cs => do
    if !c.isUpper then Act.fail .nothingToRepeat
    let verb := (c :: cs).takeWhile (· != ')')
    match (c :: cs).drop verb.length with
    | ')' :: rest => do
      goOn rest
      let verb := String.ofList (verb.takeWhile (· != ':'))
      if verb = "F" ∨ verb = "FAIL" then pure (some .never)
      else if ["ACCEPT", "COMMIT", "PRUNE", "SKIP", "THEN", "MARK"].contains verb then pure none
      else Act.fail .unknownVerb
    | _ => Act.fail .unknownVerb
  | '?' :: '#' :: cs =>
    match cs.dropWhile (· != ')') with
    | _ :: rest => do
      goOn rest
      pure none
    | [] => Act.fail .openComment
  | '?' :: ':' :: cs => looking cs id
  | '?' :: '|' :: cs => do
    goOn cs
    pure (some (← inGroup inner true))
  | '?' :: '>' :: cs => looking cs .single
  | '?' :: '=' :: cs => looking cs (.ahead true)
  | '?' :: '!' :: cs => looking cs (.ahead false)
  | '?' :: '<' :: '=' :: cs => looking cs (.behind true)
  | '?' :: '<' :: '!' :: cs => looking cs (.behind false)
  | '?' :: '<' :: cs | '?' :: 'P' :: '<' :: cs => do
    goOn cs
    let name ← nameUpTo '>'
    pure (some (← numbered inner (some name)))
  | '?' :: '\'' :: cs => do
    goOn cs
    let name ← nameUpTo '\''
    pure (some (← numbered inner (some name)))
  | '?' :: 'P' :: '=' :: cs => do
    goOn cs
    let name ← nameUpTo ')'
    pure (some (← backTo (.name name)))
  | '?' :: 'P' :: '>' :: cs | '?' :: '&' :: cs => do
    goOn cs
    let name ← nameUpTo ')'
    goOn (')' :: (← left))
    called (.name name)
  | '?' :: 'P' :: [] => Act.fail .openGroup
  | '?' :: 'P' :: _ => Act.fail .unknownNamed
  | '?' :: 'R' :: cs => do
    goOn cs
    called (.number 0)
  | '?' :: '(' :: '?' :: cs => do
    goOn cs
    let condition ← match cs with
      | '=' :: rest => do
        goOn rest
        pure (.ahead true (← inGroup inner false))
      | '!' :: rest => do
        goOn rest
        pure (.ahead false (← inGroup inner false))
      | '<' :: '=' :: rest => do
        goOn rest
        pure (.behind true (← inGroup inner false))
      | '<' :: '!' :: rest => do
        goOn rest
        pure (.behind false (← inGroup inner false))
      | _ => Act.fail .badCondition
    pure (some (← byCondition inner condition))
  | '?' :: '(' :: cs => do
    goOn cs
    let condition ← partCondition
    pure (some (← byCondition inner condition))
  | '?' :: cs =>
    match signedNumber? cs with
    | some (sign, n, rest) => do
      goOn rest
      let n ← countedFrom sign n
      called (.number n)
    | none => do
      let f := (← Act.read).flags
      let (f, cs) := match cs with
        | '^' :: cs => ({ lazy := f.lazy }, cs)
        | cs => (f, cs)
      match ← Act.ofExcept (flagsFrom f true cs) with
      | (new, ':' :: rest) => do
        goOn rest
        let old := (← Act.read).flags
        Act.update fun r => { r with flags := new }
        let a ← inGroup inner false
        Act.update fun r => { r with flags := old }
        pure (some a)
      | (new, rest) => do
        Act.update fun r => { r with flags := new, chars := rest.drop 1 }
        pure none
  | _ => do
    if (← Act.read).flags.namedOnly then pure (some (← inGroup inner false))
    else pure (some (← numbered inner none))

/-! ## How often -/

/-- The highest number that tells how often something is repeated. -/
def maxCount : Nat := 65535

/-- The numbers of a count, the opening brace of which was read, and what follows it. -/
def count? (cs : List Char) : Option (Nat × Option Nat × List Char) :=
  let ds := cs.takeWhile Char.isDigit
  if ds.isEmpty then none
  else match cs.drop ds.length with
    | '\x7d' :: rest => some (numberOf 10 ds, some (numberOf 10 ds), rest)
    | ',' :: '\x7d' :: rest => some (numberOf 10 ds, none, rest)
    | ',' :: cs =>
      let es := cs.takeWhile Char.isDigit
      match es, cs.drop es.length with
      | [], _ => none
      | es, '\x7d' :: rest => some (numberOf 10 ds, some (numberOf 10 es), rest)
      | _, _ => none
    | _ => none

/-- How often something is repeated that comes now, if something says so, and what follows. -/
def repetition? (cs : List Char) : Option (Nat × Option Nat × List Char) :=
  match cs with
  | '*' :: cs => some (0, none, cs)
  | '+' :: cs => some (1, none, cs)
  | '?' :: cs => some (0, some 1, cs)
  | '\x7b' :: cs => count? cs
  | _ => none

/-- The characters without blanks and comments in front, if those do not count. -/
def skipped : Flags → Nat → List Char → List Char
  | _, 0, cs => cs
  | f, n + 1, cs =>
    if !f.spaced then cs
    else match cs with
      | '#' :: rest => skipped f n ((rest.dropWhile (· != '\n')).drop 1)
      | c :: rest => if isSpace c then skipped f n rest else c :: rest
      | [] => []

/-- An item with what says how often. -/
def repeatedItem (a : Rich) (repeats : Bool) : Reading Rich := do
  let r ← Act.read
  let cs := if r.literal then
      match r.chars with
      | '\\' :: 'E' :: cs => cs
      | _ => []
    else skipped r.flags r.chars.length r.chars
  match repetition? cs with
  | none => pure a
  | some (least, most, rest) => do
    if !repeats then Act.fail .nothingToRepeat
    if maxCount < least || most.any (maxCount < ·) then Act.fail .countTooBig
    if most.any (· < least) then Act.fail .countsOutOfOrder
    let (appetite, rest) := match rest with
      | '?' :: rest => (if r.flags.lazy then Appetite.much else .little, rest)
      | '+' :: rest => (.all, rest)
      | _ => (if r.flags.lazy then Appetite.little else .much, rest)
    Act.update fun r => { r with chars := rest, literal := false }
    match appetite with
    | .all => pure (.single (.times a least most .much))
    | appetite => pure (.times a least most appetite)

/-- The items of a branch. At most so many are read. -/
def branch (inner : Bool → Reading Rich) : Nat → Reading Rich
  | 0 => pure .empty
  | n + 1 => do
    let r ← Act.read
    let after (a : Rich) (repeats : Bool) : Reading Rich := do
      let a ← repeatedItem a repeats
      pure (.seq a (← branch inner n))
    if r.literal then
      match r.chars with
      | [] => pure .empty
      | '\\' :: 'E' :: cs => do
        Act.update fun r => { r with chars := cs, literal := false }
        branch inner n
      | c :: cs => do
        goOn cs
        after (same r.flags c) true
    else
      match skipped r.flags r.chars.length r.chars with
      | [] => do
        goOn []
        pure .empty
      | '|' :: cs => do
        goOn ('|' :: cs)
        pure .empty
      | ')' :: cs => do
        if r.depth = 0 then Act.fail .closedGroup
        goOn (')' :: cs)
        pure .empty
      | '\\' :: 'Q' :: cs => do
        Act.update fun r => { r with chars := cs, literal := true }
        branch inner n
      | '\\' :: 'E' :: cs => do
        goOn cs
        branch inner n
      | '\\' :: cs => do
        goOn cs
        let (a, repeats) ← escape
        after a repeats
      | '[' :: c :: cs => do
        if c == ':' && isNamed ':' cs then Act.fail .classOutside
        if (c == '.' || c == '=') && isNamed c cs then Act.fail .collating
        goOn (c :: cs)
        after (← set) true
      | '[' :: [] => Act.fail .openSet
      | '(' :: cs => do
        goOn cs
        match ← bracketed inner with
        | some a => after a true
        | none => branch inner n
      | '.' :: cs => do
        goOn cs
        after (.one fun c => r.flags.dotsAll || c != '\n') true
      | '^' :: cs => do
        goOn cs
        after (.anchor (if r.flags.byLines then .lineStart '\n' else .start)) false
      | '$' :: cs => do
        goOn cs
        after (.anchor (if r.flags.byLines then .lineEnd '\n' else .finish)) false
      | c :: cs => do
        if (repetition? (c :: cs)).isSome then Act.fail .nothingToRepeat
        goOn cs
        after (same r.flags c) true

/-- The branches of an expression. `renumbers` tells that parts of each of them are counted from
where the first one starts. At most so many are read. -/
def branches (inner : Bool → Reading Rich) (renumbers : Bool) (start most : Nat) :
    Nat → Reading Rich
  | 0 => pure .empty
  | n + 1 => do
    if renumbers then Act.update fun r => { r with opened := start }
    let a ← branch inner (2 * (← left).length + 2)
    let most := max most (← Act.read).opened
    match ← left with
    | '|' :: cs => do
      goOn cs
      pure (.alt a (← branches inner renumbers start most n))
    | _ => do
      Act.update fun r => { r with opened := most }
      pure a

/-- An expression in which groups are nested at most so deep. -/
def nested : Nat → Bool → Reading Rich
  | 0, _ => pure .empty
  | n + 1, renumbers => do
    let r ← Act.read
    branches (fun renumbers s => nested n renumbers s) renumbers r.opened r.opened
      (r.chars.length + 1)

/-- The characters without the words in front that say how texts are encoded. -/
def withoutPreamble : Nat → List Char → List Char
  | 0, cs => cs
  | n + 1, cs =>
    match cs with
    | '(' :: '*' :: rest =>
      let word := rest.takeWhile (· != ')')
      let known := ["UTF", "UTF8", "UCP", "NOTEMPTY", "NO_JIT", "NO_START_OPT", "ANY", "LF", "CR",
        "CRLF", "ANYCRLF", "BSR_ANYCRLF", "BSR_UNICODE", "NO_AUTO_POSSESS"]
      if known.contains (String.ofList word) then withoutPreamble n (rest.drop (word.length + 1))
      else cs
    | _ => cs

/-- The expression that some characters spell. They are read twice, as parts may be referred to by
names that come later. -/
def ofChars (flags : Flags) (cs : List Char) : Except Defect Rich :=
  let cs := withoutPreamble cs.length cs
  let reading (known : List (String × Nat)) : Except Defect Rich × Rest :=
    Act.run (nested (cs.length + 1) false) { chars := cs, flags, known }
  match reading (reading []).2.names with
  | (.error e, _) => .error e
  | (.ok r, rest) =>
    let known : Reference → Bool
      | .number n => n ≤ rest.opened
      | .name text => (rest.names.lookup text).isSome
    let part (n : Nat) : Option Rich := if n = 0 then some r else part? n r
    if !rest.wanted.all known then .error .noSuchPart
    else if looksFar part (4 * r.size + 10) r then .error .farBehind
    else .ok r

end AslBuild.Text.Rich
