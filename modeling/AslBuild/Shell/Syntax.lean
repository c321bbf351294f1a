set_option autoImplicit false

/-!
# Shell scripts

A script is made of commands, and commands are made of words. A word is made of parts: text as it
stands, values of parameters, results of calculations, and what commands print. What is quoted
stays in one piece.

## Main definitions

* `AslBuild.Shell.Part`, `AslBuild.Shell.Word` — words.
* `AslBuild.Shell.Redirect` — where input comes from or output goes to.
* `AslBuild.Shell.Command` — commands and the ways to put them together.
-/

namespace AslBuild.Shell

/-! ## Words -/

/-- Which of the parts of a value that fit a pattern are replaced. -/
inductive Extent
  | first
  | all
  | start
  | finish
deriving DecidableEq

/-- What becomes of the case of letters. -/
inductive LetterCase
  | upper
  | lower
  | other
deriving DecidableEq

/-- What is done to the value of a parameter, where words have type `ω`. -/
inductive Change (ω : Type)
  /-- Nothing. -/
  | plain
  /-- Its length takes its place. -/
  | length
  /-- Another value takes its place if it is not set, or, on demand, also if it is empty. -/
  | orElse (orEmpty : Bool) (word : ω)
  /-- The same, and the parameter is set to that value. -/
  | orAssign (orEmpty : Bool) (word : ω)
  /-- An error, instead of another value. -/
  | orFail (orEmpty : Bool) (word : ω)
  /-- Another value takes its place if it is set, or, on demand, set and not empty. -/
  | andThen (orEmpty : Bool) (word : ω)
  /-- The shortest or the longest part at its start that fits a pattern is cut off. -/
  | cutStart (longest : Bool) (pattern : ω)
  /-- The shortest or the longest part at its end that fits a pattern is cut off. -/
  | cutEnd (longest : Bool) (pattern : ω)
  /-- A part of it takes its place. -/
  | slice (start : ω) (count : Option ω)
  /-- Parts that fit a pattern are replaced. -/
  | replace (extent : Extent) (pattern replacement : ω)
  /-- Its first letter, or all of them, change their case if they fit a pattern. -/
  | recase (case : LetterCase) (all : Bool) (pattern : ω)
  /-- The parameter that it names takes its place, and is changed. -/
  | indirect (more : Change ω)
  /-- The subscripts of its items take its place. -/
  | subscripts
  /-- The names of the variables that start with its name take its place, as one text or as several.
  -/
  | names (asOne : Bool)
  /-- Its value takes its place in another form, which a letter names. -/
  | form (letter : Char)
  /-- It makes no sense. -/
  | senseless

/-- What comes after the command of a clause. -/
inductive After
  /-- What follows all clauses. -/
  | stop
  /-- The command of the next clause. -/
  | fall
  /-- The clauses that are left. -/
  | go
deriving DecidableEq

/-- A test in double brackets. -/
inductive Condition (ω : Type)
  /-- A word that is not empty. -/
  | word (w : ω)
  /-- A test with one operand. -/
  | unary (operator : String) (operand : ω)
  /-- A test with two operands. -/
  | binary (left : ω) (operator : String) (right : ω)
  /-- A test that does not hold. -/
  | not (c : Condition ω)
  /-- Two tests that hold. -/
  | both (c d : Condition ω)
  /-- Two tests, one of which holds. -/
  | either (c d : Condition ω)

/-! ## Assignments and redirections -/

/-- What a variable is set to. -/
inductive Assigned (ω : Type)
  /-- A value. -/
  | value (w : ω)
  /-- A list of items, and how they are spelled. -/
  | items (ws : List ω) (spelled : String)

/-- An assignment to a variable. -/
structure Assignment (ω : Type) where
  /-- The name of the variable. -/
  name : String
  /-- The subscript of an item. -/
  subscript : Option ω := none
  /-- Whether the value is put behind the one that the variable has. -/
  appends : Bool := false
  /-- What it is set to. -/
  assigned : Assigned ω

/-- What is done with a stream. -/
inductive Direction
  /-- It is read from a file. -/
  | source
  /-- It is written to a file, which is emptied first; an option may protect files from that. -/
  | output
  /-- It is written to a file, which is emptied first. -/
  | overwrite
  /-- It is written to the end of a file. -/
  | append
  /-- It is read from a file and written to it. -/
  | update
  /-- It becomes a copy of another stream. -/
  | copy
  /-- It is read from the text of the script: the document of a number. -/
  | document (number : Nat)
  /-- It is read from a word. -/
  | text
deriving DecidableEq

/-- Where input comes from or output goes to. -/
structure Redirect (ω : Type) where
  /-- The number of the stream. -/
  stream : Nat
  /-- The variable that the number of the stream is put into, if that is one that is free. -/
  chosen : Option String := none
  /-- What is done with it. -/
  direction : Direction
  /-- The file, or the number of the other stream. -/
  target : ω
  /-- How it is listed. -/
  spelled : String := ""

/-! ## Commands -/

/-- A clause of a selection. -/
structure Clause (ω κ : Type) where
  /-- The patterns. -/
  patterns : List ω
  /-- How they are spelled. -/
  spelled : String
  /-- The command. -/
  body : κ
  /-- What comes next. -/
  after : After

mutual

/-- A part of a word. -/
inductive Part
  /-- Text as it stands. -/
  | text (chars : List Char) (quoted : Bool)
  /-- The value of a parameter, or of an item of it. -/
  | parameter (name : String) (subscript : Option (List Part)) (change : Change (List Part))
    (quoted : Bool)
  /-- What a command prints. -/
  | output (body : Command) (quoted : Bool)
  /-- The value of a calculation. -/
  | arithmetic (expression : List Part) (quoted : Bool)
  /-- The path of a file that holds what a command prints, or what it reads. -/
  | channel (body : Command) (isRead : Bool)

/-- A command, with the lines that messages about it name. -/
inductive Command
  /-- Nothing. -/
  | nothing
  /-- Assignments, and a command if there are words. They are also given as they are spelled. -/
  | simple (line : Nat) (assignments : List (Assignment (List Part))) (words : List (List Part))
    (spelled : String) (redirects : List (Redirect (List Part)))
  /-- The output of each command is the input of the next one. -/
  | pipe (stages : List Command)
  /-- Not waited for. -/
  | background (body : Command)
  /-- One after the other. -/
  | sequence (items : List Command)
  /-- What stands in braces. -/
  | group (body : Command)
  /-- The second only if the first succeeds. -/
  | both (first second : Command)
  /-- The second only if the first fails. -/
  | either (first second : Command)
  /-- Success and failure change places. -/
  | not (body : Command)
  /-- In a shell of its own, and with other streams. -/
  | apart (line : Nat) (body : Command) (redirects : List (Redirect (List Part)))
  /-- With other streams. -/
  | redirected (line : Nat) (body : Command) (redirects : List (Redirect (List Part)))
  /-- One of two commands, as a test says. -/
  | choice (test yes no : Command)
  /-- As long as a test succeeds, or fails. -/
  | loop (whileSuccess : Bool) (test body : Command)
  /-- Once for every word. The words are also given as they are spelled. -/
  | each (line : Nat) (name : String) (words : List (List Part)) (spelled : String)
    (body : Command)
  /-- Once for every word that is chosen from a list. -/
  | menu (line : Nat) (name : String) (words : List (List Part)) (spelled : String)
    (body : Command)
  /-- The command of the first clause with a pattern that a word fits. The word is also given as it
  is spelled. -/
  | select (line : Nat) (word : List Part) (spelled : String)
    (clauses : List (Clause (List Part) Command))
  /-- A command gets a name. -/
  | define (name : String) (body : Command)
  /-- A test in double brackets. -/
  | condition (line : Nat) (test : Condition (List Part)) (spelled : String)
  /-- A calculation in double brackets. -/
  | calculation (line : Nat) (expression : List Part) (spelled : String)
  /-- A loop with three calculations: at the start, as a test, and after each round. -/
  | count (line : Nat) (start test step : List Part) (spelled : String) (body : Command)

end

/-- A word. -/
abbrev Word : Type := List Part

instance : Inhabited Command := ⟨.nothing⟩

namespace Word

/-- The characters that a word starts with and that are not quoted, and its other parts. -/
def leading : Word → List Char × Word
  | .text cs false :: parts =>
    let (more, parts) := leading parts
    (cs ++ more, parts)
  | parts => ([], parts)

/-- The text of a word that stands for itself, if none of it is quoted. -/
def plain? (w : Word) : Option String :=
  match leading w with
  | (cs, []) => some (String.ofList cs)
  | _ => none

/-- A word of a text that is not quoted. -/
def ofText (s : String) : Word := [.text s.toList false]

end Word

/-! ## Names -/

/-- Whether a name can start with a character. -/
def startsName (c : Char) : Bool := c.isAlpha || c == '_'

/-- Whether a name can go on with a character. -/
def continuesName (c : Char) : Bool := c.isAlphanum || c == '_'

/-- Whether some characters are a name. -/
def isName (cs : List Char) : Bool := cs.head?.any startsName && cs.all continuesName

/-- Whether a character alone names a parameter. -/
def isSpecial (c : Char) : Bool := "#*@?$!-".toList.contains c || c.isDigit

end AslBuild.Shell
