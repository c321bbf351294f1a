import AslBuild.Shell.Source
set_option autoImplicit false

/-!
# Where things stand in a script

Words may hold commands and commands are made of words, so that both are read by functions that are
told how to read what is nested. What is plain text, and what a sign means, depends on where it
stands.

## Main definitions

* `AslBuild.Shell.Mode` — where a part of a word stands.
* `AslBuild.Shell.Ending` — how a list of commands ends.
* `AslBuild.Shell.Inner` — how to read what is nested.
-/

namespace AslBuild.Shell

/-- Where a part of a word stands. -/
inductive Mode
  /-- Outside of quotes. The word ends in front of a blank or a sign. -/
  | bare
  /-- In double quotes, the opening one of which is on a line. -/
  | quoted (line : Nat)
  /-- In the braces of a parameter, which may be in double quotes. -/
  | braces (quoted : Bool)
  /-- In the braces of a parameter, up to a character that is given. -/
  | upTo (mark : Char) (quoted : Bool)
  /-- In a document. -/
  | document
  /-- In a calculation, within so many brackets of its own. -/
  | arithmetic (depth : Nat)
  /-- In the first or the second part of a loop with three calculations. -/
  | part (depth : Nat)
  /-- In the brackets of a subscript. -/
  | subscript
  /-- In the parentheses of a pattern, within so many of its own. -/
  | group (depth : Nat)
deriving DecidableEq

/-- How a list of commands ends. -/
inductive Ending
  /-- With a line. -/
  | line
  /-- With a keyword or a closing bracket; there has to be a command. -/
  | block
  /-- With a keyword or a closing bracket. -/
  | clause
deriving DecidableEq

/-- How to read what is nested. -/
structure Inner where
  /-- The parts of a word that are left. -/
  parts : Mode → Reading Word
  /-- A list of commands. -/
  list : Reading Command
  /-- A list of commands that may be empty. -/
  clause : Reading Command
  /-- A command. -/
  command : Reading Command
  /-- A test in double brackets, and how it is listed. -/
  condition : Reading (Condition Word × String)

namespace Mode

/-- Whether text that stands here is quoted. -/
def quotes : Mode → Bool
  | .bare | .braces false | .upTo _ false | .subscript | .group _ => false
  | _ => true

/-- Whether quotes have their meaning here. -/
def knowsQuotes : Mode → Bool
  | .bare | .braces false | .upTo _ false | .subscript | .group _ => true
  | _ => false

/-- The character that ends the parts here. -/
def mark? : Mode → Option Char
  | .quoted _ => some '"'
  | .braces _ => some '\x7d'
  | .part _ => some ';'
  | .upTo c _ => some c
  | .subscript => some ']'
  | _ => none

/-- Whether a character is plain text here. -/
def isPlain (m : Mode) (c : Char) : Bool :=
  !("\\$\x60".toList.contains c) && m.mark? != some c &&
    match m with
    | .bare => c != '\'' && c != '"' && !Reading.endsWord c
    | .braces false | .upTo _ false => c != '\'' && c != '"' && c != '\x7d'
    | .subscript => c != '\'' && c != '"'
    | .braces true | .upTo _ true => c != '"' && c != '\x7d'
    | .arithmetic _ => c != '(' && c != ')' && c != '"'
    | .part _ => c != '(' && c != ')' && c != '"'
    | .group _ => c != '\'' && c != '"' && c != '(' && c != ')'
    | _ => true

/-- Whether a backslash takes the meaning from a character here. -/
def escapes (m : Mode) (c : Char) : Bool :=
  match m with
  | .quoted _ => "\\$\x60\"".toList.contains c
  | .braces true | .upTo _ true => "\\$\x60\"\x7d".toList.contains c
  | .document | .arithmetic _ | .part _ => "\\$\x60".toList.contains c
  | _ => true

/-- Why the script must not end here: the line on which something was opened, if it is known, the
sign that would close it, and what is said of it. -/
def openReason? : Mode → Option (Option Nat × Char × String)
  | .bare | .document => none
  | .quoted line => some (some line, '"', "Unterminated quoted string")
  | .braces true | .upTo _ true => some (none, '\x7d', "Unterminated quoted string")
  | .arithmetic _ | .part _ | .group _ => some (none, ')', "Missing '))'")
  | _ => some (none, '\x7d', "Missing '\x7d'")

end Mode

end AslBuild.Shell
