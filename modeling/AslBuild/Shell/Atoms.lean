import AslBuild.Shell.Arithmetic.Reader
import AslBuild.Shell.Arithmetic.Value
import AslBuild.Shell.Grammar.Commands
import AslBuild.Shell.State
set_option autoImplicit false

/-!
# Atoms

A word becomes a list of *atoms* when it is expanded: characters, of which it is known whether they
are quoted and whether they come from a value.

## Main definitions

* `AslBuild.Shell.Atom` — the atoms of a word.
* `AslBuild.Shell.Engine` — how what is nested is done.
* `AslBuild.Shell.withTilde`, `AslBuild.Shell.withTildes` — home directories.
* `AslBuild.Shell.calculate` — the value of an expression.
-/

namespace AslBuild.Shell

open FileSystem Host Text

/-! ## Atoms -/

/-- An atom of an expanded word. -/
inductive Atom
  /-- A character of the word itself, or one that is quoted. -/
  | char (c : Char) (quoted : Bool)
  /-- A character of a value that is not quoted. It may separate fields. -/
  | value (c : Char)
  /-- The place of quotes, which make a field even if nothing is in them. -/
  | mark
  /-- There are no arguments here: quotes around this make no field. -/
  | absent
  /-- The end of a field. -/
  | stop
  /-- The end of a field, if one has begun. -/
  | gap
deriving DecidableEq

/-- How what is nested is done. -/
structure Engine where
  /-- How processes are started. -/
  launch : Launch
  /-- Run a command, as part of a test or not. -/
  run : Bool → Command → Sh Unit
  /-- Run a command for what it prints. -/
  output : Command → Sh String
  /-- Run a command, and give the channel that holds what it prints. -/
  feed : Command → Sh Nat
  /-- The atoms of a word, which may fall into fields or not. -/
  atoms : Bool → Word → Sh (List Atom)

/-- The atoms of a text. -/
def atomsOfText (quoted : Bool) (text : String) : List Atom :=
  text.toList.map fun c => if quoted then .char c true else .value c

/-- The characters of some atoms, each of which is quoted or not. -/
def charsOf (atoms : List Atom) : List (Char × Bool) :=
  atoms.filterMap fun a =>
    match a with
    | .char c quoted => some (c, quoted)
    | .value c => some (c, false)
    | .stop | .gap => some (' ', true)
    | _ => none

/-- The text of some atoms. -/
def joined (atoms : List Atom) : String := String.ofList ((charsOf atoms).map (·.1))

/-! ## Homes -/

/-- The home directories of the users that every machine has. -/
def homes : List (String × String) :=
  [("root", "/root"), ("daemon", "/usr/sbin"), ("bin", "/bin"), ("nobody", "/nonexistent")]

/-- The home directory of a user; of the one whose shell it is, if no name is given. -/
def homeOf? (s : State) (user : List Char) : Option String :=
  if user.isEmpty then s.get? "HOME"
  else homes.lookup (String.ofList user)

/-- The parts of a text in front of which a home directory may stand. It is at the start of a word
if `whole` says that nothing comes behind it. -/
def tildeParts (s : State) (whole : Bool) (cs : List Char) : Word :=
  match cs with
  | '~' :: rest =>
    let user := rest.takeWhile fun c => c != '/'
    let after := rest.drop user.length
    if after.isEmpty && !whole then [.text cs false]
    else match homeOf? s user with
      | some home => [.text home.toList true, .text after false]
      | none => [.text cs false]
  | _ => [.text cs false]

/-- A word with the home directory in the place of a tilde at its start. -/
def withTilde (s : State) : Word → Word
  | .text cs false :: parts => tildeParts s parts.isEmpty cs ++ parts
  | w => w

/-- The pieces of a text between colons, with home directories. `start` says whether a home directory
may stand in front of the first one, and `whole` that nothing comes behind the last one. -/
def tildePieces (s : State) : Bool → Bool → List (List Char) → Word
  | _, _, [] => []
  | start, whole, [p] => if start then tildeParts s whole p else [.text p false]
  | start, whole, p :: ps =>
    (if start then tildeParts s true p else [.text p false]) ++
      .text [':'] false :: tildePieces s true whole ps

/-- The value of an assignment, with the home directory in the place of a tilde at its start or
after a colon. -/
def withTildes (s : State) : Bool → Word → Word
  | _, [] => []
  | start, .text cs false :: parts =>
    tildePieces s start parts.isEmpty (Text.pieces (· == ':') cs) ++ withTildes s false parts
  | _, p :: parts => p :: withTildes s false parts

/-! ## Numbers -/

/-- The number that a whole text spells, in the way of the shell. -/
def wholeNumber? (extended : Bool) (text : String) : Option Int :=
  let cs := Text.trimChars text.toList
  let unsigned (cs : List Char) : Option Int :=
    if !cs.head?.any Char.isDigit then none
    else if extended then
      if cs.all continuesNumber then (extendedNumber cs).toOption else none
    else match readNumber cs with
      | (n, []) => some n
      | _ => none
  match cs with
  | [] => some 0
  | '-' :: cs => (unsigned cs).map fun n => max (-n) least
  | '+' :: cs => unsigned cs
  | cs => unsigned cs

/-- How expressions are spelled at the moment. -/
def State.spelling (s : State) : Spelling := { extended := s.extended, isTable := s.isTable }

/-- How calculations get at variables, where `other` says what a text means that is no number. -/
def accessWith (refuse : Fault → Sh Int) (other : String → Sh Int) : Calculation.Access Sh where
  fetch name subscript := do
    draw name
    let s ← Act.read
    let value ← match subscript with
      | none => pure (s.parameter? name)
      | some key => item? name key
    let text := value.getD ""
    match wholeNumber? s.extended text with
    | some n => pure n
    | none => other text
  store name subscript n :=
    match subscript with
    | none => assign name (toString n)
    | some key => do
      let key ← keyToSet name key
      changeValue name fun old => withItem old key (toString n)
  refuse := refuse

/-- An expression makes no sense. -/
def refuseExpression (text : String) (f : Fault) : Sh Int := do
  fail (f.message (← Act.read).extended text)

/-- The value of an expression. In the language with extensions, the values of variables in it are
expressions themselves, so many levels deep. -/
def calculateUpTo : Nat → String → Sh Int
  | 0, text => refuseExpression text ⟨.depth, text.toList, 0⟩
  | depth + 1, text => do
    let s ← Act.read
    let other (inner : String) : Sh Int :=
      if s.extended then calculateUpTo depth inner else fail ("Illegal number: " ++ inner)
    match Calculation.ofChars s.spelling text.toList with
    | .error f => refuseExpression text f
    | .ok e => Calculation.value (accessWith (refuseExpression text) other) e

/-- How often the value of a variable may be taken for an expression in turn. -/
def expressionDepth : Nat := 1024

/-- The value of an expression. -/
def calculate (text : String) : Sh Int := calculateUpTo expressionDepth text

end AslBuild.Shell
