import AslBuild.Text.Utf8
set_option autoImplicit false

/-!
# Quotes

Ways to write a text so that a shell reads it as it is. The characters are those of raw texts: each
of them is a byte.

## Main definitions

* `AslBuild.Text.Quoting.single`, `AslBuild.Text.Quoting.double` — in quotes of one kind.
* `AslBuild.Text.Quoting.mixed` — in quotes of both kinds.
* `AslBuild.Text.Quoting.escaped` — with escapes.
* `AslBuild.Text.Quoting.full`, `AslBuild.Text.Quoting.sparing` — as the text needs it.
-/

namespace AslBuild.Text.Quoting

/-- A text in single quotes. -/
def single (s : String) : String := "'" ++ s.replace "'" "'\\''" ++ "'"

/-- A text in double quotes. -/
def double (s : String) : String :=
  "\"" ++ String.join (s.toList.map fun c =>
    if "$\x60\"\\".toList.contains c then "\\" ++ c.toString else c.toString) ++ "\""

/-- The characters of a text in quotes: double ones around single ones, and single ones around all
else. At most so many runs of characters are looked at. -/
def mixedChars : Nat → List Char → String
  | 0, _ => ""
  | n + 1, cs =>
    let plain := cs.takeWhile (· != '\'')
    let rest := cs.drop plain.length
    let quotes := rest.takeWhile (· == '\'')
    let after := rest.drop quotes.length
    "'" ++ String.ofList plain ++ "'" ++
      (if quotes.isEmpty then "" else "\"" ++ String.ofList quotes ++ "\"") ++
      (if after.isEmpty then "" else mixedChars n after)

/-- A text in quotes of both kinds. -/
def mixed (s : String) : String := mixedChars (s.length + 1) s.toList

/-- Whether a character cannot be shown. -/
def isHidden (c : Char) : Bool := c.toNat < 0x20 || 0x7F ≤ c.toNat

/-- Three octal digits. -/
def octal (n : Nat) : String :=
  String.ofList ([n / 64 % 8, n / 8 % 8, n % 8].map fun d => Char.ofNat (48 + d))

/-- A character, with an escape if it cannot stand as it is. -/
def escapedChar (c : Char) : String :=
  match c with
  | '\\' => "\\\\"
  | '\'' => "\\'"
  | '\n' => "\\n"
  | '\t' => "\\t"
  | '\r' => "\\r"
  | '\x07' => "\\a"
  | '\x08' => "\\b"
  | '\x0b' => "\\v"
  | '\x0c' => "\\f"
  | '\x1b' => "\\E"
  | c => if isHidden c then "\\" ++ octal c.toNat else c.toString

/-- A text with escapes, in the quotes for that. -/
def escaped (s : String) : String := "$'" ++ String.join (s.toList.map escapedChar) ++ "'"

/-- Whether some characters mean something to a shell, `first` telling whether they start a text. -/
def hasSigns : Bool → List Char → Bool
  | _, [] => false
  | first, c :: cs =>
    " \t\n'\"\\|&;()<>!\x7b\x7d*[]?^$\x60".toList.contains c || (first && (c == '#' || c == '~')) ||
      ((c == '=' || c == ':') && cs.head? == some '~') || hasSigns false cs

/-- A text in quotes, with escapes if some of it cannot be shown. -/
def full (quotes : String → String) (s : String) : String :=
  if s.toList.any isHidden then escaped s else quotes s

/-- A text in quotes if it has signs in it, or with escapes if some of it cannot be shown. An empty
text stays as it is. -/
def sparing (s : String) : String :=
  if hasSigns true s.toList then single s
  else if s.toList.any isHidden then escaped s
  else s

end AslBuild.Text.Quoting
