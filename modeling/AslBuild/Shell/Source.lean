import AslBuild.Act
import AslBuild.Shell.Syntax
set_option autoImplicit false

/-!
# The text of a script

A script is read from its start to its end, one command at a time. A backslash in front of a line
end joins two lines. The document of a redirection starts on the line after the one that asks for
it, wherever the command ends.

## Main definitions

* `AslBuild.Shell.Lexeme` — the pieces that a script falls into.
* `AslBuild.Shell.Source` — what is left of a script.
* `AslBuild.Shell.Reading` — a step of reading.
* `AslBuild.Shell.scan` — the next piece, but for words.
-/

namespace AslBuild.Shell

/-! ## Pieces -/

/-- What a redirection does, as far as its sign tells. -/
inductive Arrow
  /-- One thing with one stream. -/
  | to (direction : Direction)
  /-- A document is read, without the tabs at the start of its lines if that is asked for. -/
  | document (stripped : Bool)
  /-- Output and messages are written to one file. -/
  | outputs (append : Bool)
deriving DecidableEq

/-- A piece of a script. -/
inductive Lexeme
  /-- The end. -/
  | finish
  | newline
  | semicolon
  | ampersand
  | andIf
  | orIf
  | pipe
  /-- A pipe for output and messages. -/
  | pipeBoth
  | openGroup
  | closeGroup
  /-- The end of a clause. -/
  | endClause (after : After)
  /-- A redirection of a stream, the number of which may be put into a variable. -/
  | redirect (stream : Nat) (arrow : Arrow) (chosen : Option String := none)
  /-- A word. -/
  | word (w : Word)
  /-- A word with a meaning of its own. -/
  | keyword (text : String)

/-- The words with a meaning of their own. -/
def keywords : List String :=
  ["!", "case", "do", "done", "elif", "else", "esac", "fi", "for", "if", "in", "then", "until",
    "while", "\x7b", "\x7d"]

/-- The words with a meaning of their own, of the language with extensions. -/
def extendedKeywords : List String := ["[[", "]]", "function", "select"]

/-- The keywords that end a list of commands. -/
def closers : List String := ["do", "done", "elif", "else", "esac", "fi", "then", "\x7d"]

namespace Lexeme

/-- Whether a list of commands ends in front of a piece. -/
def endsList : Lexeme → Bool
  | .finish | .closeGroup | .endClause _ => true
  | .keyword k => closers.contains k
  | _ => false

/-- How messages call a piece. -/
def description : Lexeme → String
  | .finish => "end of file"
  | .newline => "newline"
  | .semicolon => "\";\""
  | .ampersand => "\"&\""
  | .andIf => "\"&&\""
  | .orIf => "\"||\""
  | .pipe => "\"|\""
  | .pipeBoth => "\"|&\""
  | .openGroup => "\"(\""
  | .closeGroup => "\")\""
  | .endClause .stop => "\";;\""
  | .endClause .fall => "\";&\""
  | .endClause .go => "\";;&\""
  | .redirect .. => "redirection"
  | .word _ => "word"
  | .keyword k => "\"" ++ k ++ "\""

/-- The piece as a word. -/
def asWord : Lexeme → Word
  | .word w => w
  | .keyword k => Word.ofText k
  | _ => []

end Lexeme

/-! ## What is left -/

/-- A document that is to come. -/
structure Awaited where
  /-- The line that asks for it. -/
  line : Nat
  /-- Its number. -/
  number : Nat
  /-- The line that ends it. -/
  delimiter : List Char
  /-- Whether tabs at the start of its lines are left out. -/
  stripped : Bool
  /-- Whether all of it stands as it is. -/
  literal : Bool

/-- What is left of a script. -/
structure Source where
  /-- The characters that are left. -/
  rest : List Char
  /-- The line of the first of them. -/
  line : Nat := 1
  /-- A piece that was read and given back. -/
  back : Option Lexeme := none
  /-- The piece that was read last. -/
  last : Lexeme := .newline
  /-- The word that was read last, as it is spelled. -/
  spelled : String := ""
  /-- The documents that are to come. -/
  awaited : List Awaited := []
  /-- The documents that were read, by number. -/
  documents : List (Nat × Word) := []
  /-- The number of the next document. -/
  nextDocument : Nat := 0
  /-- Whether the language with extensions is read. -/
  extended : Bool := false
  /-- Whether words may hold patterns in parentheses. -/
  groups : Bool := false
  /-- The texts that stand for words. -/
  aliases : List (String × String) := []
  /-- The words that texts were put in the place of: each with the number of characters that were left
  behind it, and whether the word behind it may stand for a text, too. -/
  replaced : List (String × Nat × Bool) := []
  /-- What is to be said of the script, each with its line. -/
  warnings : List (Nat × String) := []

/-- Why a script cannot be read, and the line on which that shows. -/
structure Misreading where
  /-- The line. -/
  line : Nat
  /-- The reason. -/
  reason : String

/-- A step of reading. -/
abbrev Reading (α : Type) : Type := Act Misreading Source α

namespace Reading

/-- The script makes no sense on a line. -/
def refuseOn {α : Type} (line : Nat) (reason : String) : Reading α := Act.fail ⟨line, reason⟩

/-- The script makes no sense here. -/
def refuse {α : Type} (reason : String) : Reading α := do
  Act.fail ⟨(← Act.read).line, reason⟩

/-- The piece that was read last does not belong here. -/
def unexpected {α : Type} (wanted : Option String) : Reading α := do
  let found := (← Act.read).last.description
  refuse (match wanted with
    | none => found ++ " unexpected"
    | some wanted => found ++ " unexpected (expecting " ++ wanted ++ ")")

/-! ## Characters -/

/-- The characters behind joined line ends, and their line. -/
def dropJoins : List Char → Nat → List Char × Nat
  | '\\' :: '\n' :: cs, line => dropJoins cs (line + 1)
  | cs, line => (cs, line)

/-- The next character, with joined line ends left out. -/
def look : Reading (Option Char) := fun s =>
  let (rest, line) := dropJoins s.rest s.line
  (.ok rest.head?, { s with rest, line })

/-- The next character as it stands. -/
def lookHere : Reading (Option Char) := fun s => (.ok s.rest.head?, s)

/-- Go past a character. -/
def skip : Reading Unit := Act.update fun s =>
  match s.rest with
  | [] => s
  | c :: rest => { s with rest, line := if c == '\n' then s.line + 1 else s.line }

/-- Go past a character that must not count as the end of a line. -/
def skipUncounted : Reading Unit := Act.update fun s => { s with rest := s.rest.tail }

/-- Go past the next character if it is the given one. -/
def skipIf (c : Char) : Reading Bool := do
  if (← look) = some c then
    skip
    pure true
  else pure false

/-- The longest run of characters with a property. -/
def run (p : Char → Bool) : Reading (List Char) := fun s =>
  let taken := s.rest.takeWhile p
  (.ok taken, { s with
    rest := s.rest.drop taken.length
    line := s.line + taken.count '\n' })

/-- The number of steps that reading may take at most: every step goes past a character, or past a
piece that was given back. -/
def bound : Reading Nat := do pure ((← Act.read).rest.length + 2)

/-! ## Blanks and signs -/

/-- The characters behind blanks and comments, and their line. -/
def dropBlanks : Bool → List Char → Nat → List Char × Nat
  | _, [], line => ([], line)
  | true, c :: cs, line => if c = '\n' then (c :: cs, line) else dropBlanks true cs line
  | false, '\\' :: '\n' :: cs, line => dropBlanks false cs (line + 1)
  | false, c :: cs, line =>
    if c = ' ' ∨ c = '\t' then dropBlanks false cs line
    else if c = '#' then dropBlanks true cs line
    else (c :: cs, line)

/-- Go past blanks and comments. -/
def skipBlanks : Reading Unit := Act.update fun s =>
  let (rest, line) := dropBlanks false s.rest s.line
  { s with rest, line }

/-- Whether a character ends a word. -/
def endsWord (c : Char) : Bool := " \t\n;&|()<>".toList.contains c

/-- The redirection whose sign starts with a `<`. -/
def scanLess (stream : Nat) : Reading Lexeme := do
  match ← look with
  | some '<' =>
    skip
    if ← skipIf '-' then pure (.redirect stream (.document true))
    else if (← Act.read).extended && (← look) = some '<' then
      skip
      pure (.redirect stream (.to .text))
    else pure (.redirect stream (.document false))
  | some '&' =>
    skip
    pure (.redirect stream (.to .copy))
  | some '>' =>
    skip
    pure (.redirect stream (.to .update))
  | _ => pure (.redirect stream (.to .source))

/-- The redirection whose sign starts with a `>`. -/
def scanGreat (stream : Nat) : Reading Lexeme := do
  match ← look with
  | some '>' =>
    skip
    pure (.redirect stream (.to .append))
  | some '|' =>
    skip
    pure (.redirect stream (.to .overwrite))
  | some '&' =>
    skip
    pure (.redirect stream (.to .copy))
  | _ => pure (.redirect stream (.to .output))

/-- The piece that a sign starts, or nothing if a word comes next. -/
def scanSign (c : Char) : Reading (Option Lexeme) := do
  let one (t : Lexeme) : Reading (Option Lexeme) := do
    skip
    pure (some t)
  match c with
  | '\n' => one .newline
  | ';' =>
    skip
    if ← skipIf ';' then
      if (← Act.read).extended && (← skipIf '&') then pure (some (.endClause .go))
      else pure (some (.endClause .stop))
    else if (← Act.read).extended && (← skipIf '&') then pure (some (.endClause .fall))
    else pure (some .semicolon)
  | '|' =>
    skip
    if ← skipIf '|' then pure (some .orIf)
    else if (← Act.read).extended && (← skipIf '&') then pure (some .pipeBoth)
    else pure (some .pipe)
  | '(' => one .openGroup
  | ')' => one .closeGroup
  | '<' =>
    skip
    pure (some (← scanLess 0))
  | '>' =>
    skip
    pure (some (← scanGreat 1))
  | '&' =>
    skip
    let extended := (← Act.read).extended
    match ← look with
    | some '&' =>
      skip
      pure (some .andIf)
    | some '>' =>
      if extended then
        skip
        if ← skipIf '>' then pure (some (.redirect 1 (.outputs true)))
        else pure (some (.redirect 1 (.outputs false)))
      else pure (some .ampersand)
    | _ => pure (some .ampersand)
  | _ => pure none

/-- The redirection of a stream with a number, or nothing. Without extensions, the number has one
digit. -/
def scanNumbered : Reading (Option Lexeme) := do
  let s ← Act.read
  let digits := s.rest.takeWhile Char.isDigit
  if digits.isEmpty || (1 < digits.length && !s.extended) then pure none
  else
    let number := digits.foldl (fun n c => n * 10 + (c.toNat - 48)) 0
    match s.rest.drop digits.length with
    | '<' :: rest =>
      Act.update fun s => { s with rest }
      pure (some (← scanLess number))
    | '>' :: rest =>
      Act.update fun s => { s with rest }
      pure (some (← scanGreat number))
    | _ => pure none

/-- The name in braces that a text starts with, right in front of a redirection, and what follows
the braces. -/
def chosenName? (cs : List Char) : Option (String × List Char) :=
  match cs with
  | '\x7b' :: cs =>
    let name := cs.takeWhile continuesName
    match isName name, cs.drop name.length with
    | true, '\x7d' :: c :: rest =>
      if c = '<' ∨ c = '>' then some (String.ofList name, c :: rest) else none
    | _, _ => none
  | _ => none

/-- The redirection of a stream whose number is put into a variable, or nothing. -/
def scanChosen : Reading (Option Lexeme) := do
  let s ← Act.read
  match if s.extended then chosenName? s.rest else none with
  | some (name, rest) => do
    Act.update fun s => { s with rest := rest.tail }
    match ← if rest.head? = some '<' then scanLess 0 else scanGreat 1 with
    | .redirect stream arrow => pure (some (.redirect stream arrow (some name)))
    | other => pure (some other)
  | none => pure none

/-- Whether a sign for reading from a command or writing to it comes next. -/
def startsChannel : Reading Bool := do
  let s ← Act.read
  match s.extended, s.rest with
  | true, '<' :: '(' :: _ | true, '>' :: '(' :: _ => pure true
  | _, _ => pure false

/-- The next piece, or nothing if that is a word. -/
def scan : Reading (Option Lexeme) := do
  skipBlanks
  match ← look with
  | none => pure (some .finish)
  | some c =>
    if ← startsChannel then return none
    match ← scanNumbered with
    | some t => pure (some t)
    | none =>
      match ← scanChosen with
      | some t => pure (some t)
      | none => scanSign c

end Reading

end AslBuild.Shell
