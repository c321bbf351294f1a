set_option autoImplicit false

/-!
# Escapes

In the texts that are printed, a backslash and what follows it stands for another character. There
are several sets of escapes; all of them know letters for control characters.

## Main definitions

* `AslBuild.Text.Escape.Style` — a set of escapes.
* `AslBuild.Text.Escape.unescape` — a text with its escapes replaced.
-/

namespace AslBuild.Text.Escape

/-- A set of escapes. -/
structure Style where
  /-- Whether a number of three octal digits may stand there by itself. -/
  octal : Bool
  /-- Whether a number of three octal digits may stand behind a zero. -/
  zeroOctal : Bool
  /-- Whether hexadecimal numbers are known. -/
  hex : Bool
  /-- Whether a letter asks to stop there. -/
  stops : Bool
  /-- Whether quotes are escapes. -/
  quotes : Bool := false
  /-- Whether there are letters for the escape character: a small one, and a capital one. -/
  escape : Bool := true
  capitalEscape : Bool := false

/-- The value of a digit, which is too large to be one if the character is none. -/
def digitOf (c : Char) : Nat :=
  if c.isDigit then c.toNat - 48
  else if 'a' ≤ c ∧ c ≤ 'f' then c.toNat - 87
  else if 'A' ≤ c ∧ c ≤ 'F' then c.toNat - 55
  else 99

/-- The number that at most so many digits spell in a base, and what follows them. -/
def readDigits (base : Nat) : Nat → Nat → List Char → Nat × List Char
  | 0, value, cs => (value, cs)
  | _, value, [] => (value, [])
  | n + 1, value, c :: cs =>
    if digitOf c < base then readDigits base n (value * base + digitOf c) cs else (value, c :: cs)

/-- The character of a number, of which only the lowest bits count. -/
def byteChar (n : Nat) : Char := Char.ofNat (n % 256)

/-- What a letter after a backslash stands for. -/
def letter? (c : Char) : Option Char :=
  match c with
  | 'a' => some '\x07'
  | 'b' => some '\x08'
  | 'f' => some '\x0c'
  | 'n' => some '\n'
  | 'r' => some '\r'
  | 't' => some '\t'
  | 'v' => some '\x0b'
  | '\\' => some '\\'
  | _ => none

/-- What an escape stands for, the backslash of which was read, and what follows it; nothing if it
is no escape. -/
def read? (style : Style) (cs : List Char) : Option (Char × List Char) :=
  match cs with
  | [] => none
  | c :: rest =>
    if c = '0' ∧ style.zeroOctal then
      let (n, rest) := readDigits 8 3 0 rest
      some (byteChar n, rest)
    else if digitOf c < 8 then
      if style.octal then
        let (n, rest) := readDigits 8 3 0 cs
        some (byteChar n, rest)
      else none
    else if c = 'x' ∧ style.hex then
      let (n, rest') := readDigits 16 2 0 rest
      if rest'.length = rest.length then none else some (byteChar n, rest')
    else if c = 'e' ∧ style.escape ∨ c = 'E' ∧ style.capitalEscape then some ('\x1b', rest)
    else if (c = '"' ∨ c = '\'') ∧ style.quotes then some (c, rest)
    else (letter? c).map fun d => (d, rest)

/-- A text with its escapes replaced, and whether it asks to stop there. At most so many characters
are read. -/
def unescapeUpTo (style : Style) : Nat → List Char → List Char × Bool
  | 0, _ => ([], false)
  | _, [] => ([], false)
  | n + 1, '\\' :: cs =>
    if style.stops && cs.head? == some 'c' then ([], true)
    else
      let (c, rest) := (read? style cs).getD ('\\', cs)
      let (more, stop) := unescapeUpTo style n rest
      (c :: more, stop)
  | n + 1, c :: cs =>
    let (more, stop) := unescapeUpTo style n cs
    (c :: more, stop)

/-- A text with its escapes replaced, and whether it asks to stop there. -/
def unescape (style : Style) (text : String) : String × Bool :=
  let (cs, stop) := unescapeUpTo style (text.length + 1) text.toList
  (String.ofList cs, stop)

end AslBuild.Text.Escape
