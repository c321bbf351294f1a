import AslBuild.Shell.Grammar.Pieces
set_option autoImplicit false

/-!
# Reading simple commands

## Main definitions

* `AslBuild.Shell.Reading.redirection` — read what a redirection asks for.
* `AslBuild.Shell.Reading.assignment?` — the assignment that a word spells.
* `AslBuild.Shell.Reading.gather` — read a simple command.
-/

namespace AslBuild.Shell

namespace Reading

/-! ## Redirections -/

/-- The text of a word, without its quotes. -/
def textOf : Word → List Char
  | .text cs _ :: parts => cs ++ textOf parts
  | .parameter name _ _ _ :: parts => '$' :: name.toList ++ textOf parts
  | _ :: parts => textOf parts
  | [] => []

/-- Whether a part of a word is quoted. -/
def hasQuotes (w : Word) : Bool := w.any fun p =>
  match p with
  | .text _ quoted => quoted
  | _ => false

/-- A redirection as it is listed: the number of the stream unless it is the usual one, the sign, and
the target as it is spelled. -/
def spelledRedirect (stream : Nat) (chosen : Option String) (arrow : Arrow) (target : String) :
    String :=
  let sign (usual : Nat) (text : String) : String :=
    (match chosen with
      | some name => "\x7b" ++ name ++ "\x7d"
      | none => if stream = usual then "" else toString stream) ++ text
  let number := match chosen with
    | some name => "\x7b" ++ name ++ "\x7d"
    | none => toString stream
  match arrow with
  | .outputs append => (if append then "&>> " else "&> ") ++ target
  | .document stripped => sign 0 (if stripped then "<<-" else "<<") ++ target
  | .to .source => sign 0 "< " ++ target
  | .to .output => sign 1 "> " ++ target
  | .to .overwrite => sign 1 ">| " ++ target
  | .to .append => sign 1 ">> " ++ target
  | .to .update => sign 0 "<> " ++ target
  | .to .copy => number ++ (if stream = 0 then "<&" else ">&") ++ target
  | .to .text => sign 0 "<<< " ++ target
  | .to (.document _) => target

/-- The redirections that a sign asks for, the target of which comes next. -/
def redirection (inner : Inner) (stream : Nat) (arrow : Arrow) (chosen : Option String) :
    Reading (List (Redirect Word)) := do
  match ← next inner false false with
  | .word w =>
    let spelled := spelledRedirect stream chosen arrow (← Act.read).spelled
    match arrow with
    | .outputs append =>
      let direction := if append then Direction.append else .output
      pure [{ stream := 1, direction, target := w, spelled },
        { stream := 2, direction := .copy, target := Word.ofText "1" }]
    | .document stripped =>
      let s ← Act.read
      let number := s.nextDocument
      let a : Awaited := ⟨s.line, number, textOf w, stripped, hasQuotes w⟩
      Act.update fun s => { s with awaited := s.awaited ++ [a], nextDocument := number + 1 }
      pure [{ stream, chosen, direction := .document number, target := w, spelled }]
    | .to direction => pure [{ stream, chosen, direction, target := w, spelled }]
  | _ => unexpected none

/-- The redirections behind a command. At most so many are read. -/
def redirections (inner : Inner) : Nat → Reading (List (Redirect Word))
  | 0 => pure []
  | n + 1 => do
    match ← next inner false true with
    | .redirect stream arrow chosen => do
      let first ← redirection inner stream arrow chosen
      pure (first ++ (← redirections inner n))
    | t =>
      giveBack t
      pure []

/-! ## Simple commands -/

/-- A word that starts with some text. -/
def withText (cs : List Char) (w : Word) : Word := if cs.isEmpty then w else .text cs false :: w

/-- The part of a word in front of the bracket that closes a subscript, and what follows that. -/
def cutSubscript : Word → Option (Word × Word)
  | [] => none
  | .text cs false :: parts =>
    let key := cs.takeWhile (· != ']')
    match cs.drop key.length with
    | _ :: after => some ([.text key true], withText after parts)
    | [] => (cutSubscript parts).map fun (more, rest) => (.text key true :: more, rest)
  | part :: parts => (cutSubscript parts).map fun (more, rest) => (part :: more, rest)

/-- Whether a value is put behind another one, and the value, after the sign for that. -/
def afterSign (extended : Bool) (w : Word) : Option (Bool × Word) :=
  match Word.leading w with
  | ('=' :: value, parts) => some (false, withText value parts)
  | ('+' :: '=' :: value, parts) => if extended then some (true, withText value parts) else none
  | _ => none

/-- The assignment that a word spells. -/
def assignment? (extended : Bool) (w : Word) : Option (Assignment Word) :=
  let (cs, parts) := Word.leading w
  let name := cs.takeWhile continuesName
  let of (subscript : Option Word) (rest : Word) : Option (Assignment Word) :=
    (afterSign extended rest).map fun (appends, value) =>
      { name := String.ofList name, subscript, appends, assigned := .value value }
  if isName name then
    match extended, cs.drop name.length with
    | true, '[' :: more => (cutSubscript (withText more parts)).bind fun (key, rest) => of key rest
    | _, more => of none (withText more parts)
  else none

/-- The items of a list in brackets, the opening one of which was read, each with how it is spelled.
At most so many are read. -/
def listItems (inner : Inner) : Nat → Reading (List (Word × String))
  | 0 => pure []
  | n + 1 => do
    match ← next inner true false with
    | .word w =>
      let spelled := (← Act.read).spelled
      pure ((w, spelled) :: (← listItems inner n))
    | .closeGroup => pure []
    | _ => unexpected (some "\")\"")

/-- The assignment that a word spells, with a list of items in brackets if that comes next. -/
def assignment (inner : Inner) (w : Word) : Reading (Option (Assignment Word)) := do
  let extended := (← Act.read).extended
  match assignment? extended w with
  | none => pure none
  | some a =>
    match extended, a.assigned, (← Act.read).rest with
    | true, .value [], '(' :: _ =>
      skip
      let items ← listItems inner (← bound)
      pure (some { a with
        assigned := .items (items.map (·.1)) (" ".intercalate (items.map (·.2))) })
    | _, _, _ => pure (some a)

/-- The commands of the shell itself that no function can have the name of. -/
def specialNames : List String :=
  [".", ":", "break", "continue", "eval", "exec", "exit", "export", "local", "readonly", "return",
    "set", "shift", "times", "trap", "unset"]

/-- The body of a function, and its definition. -/
def definition (inner : Inner) (w : Word) : Reading Command := do
  match ← next inner false false with
  | .closeGroup =>
    let extended := (← Act.read).extended
    match w.plain? with
    | some name =>
      if extended || (isName name.toList && !specialNames.contains name) then
        giveBack (← next inner true true)
        pure (.define name (← inner.command))
      else refuse "Bad function name"
    | none => refuse "Bad function name"
  | _ => unexpected (some "\")\"")

/-- The commands whose arguments may be lists of items, as in an assignment. -/
def declaring : List String := ["declare", "typeset", "local", "export", "readonly"]

/-- What was read of a simple command. -/
structure Gathered where
  /-- The assignments. -/
  assignments : List (Assignment Word) := []
  /-- The words, the last one first. -/
  words : List Word := []
  /-- How the assignments and the words are spelled, the last one first. -/
  spelled : List String := []
  /-- The redirections. -/
  redirects : List (Redirect Word) := []

/-- The simple command of what was read. -/
def Gathered.command (g : Gathered) (line : Nat) : Command :=
  .simple line g.assignments g.words.reverse (" ".intercalate g.spelled.reverse) g.redirects

/-- An assignment as it is listed, the start of which is spelled in a way. -/
def spelledAssignment (a : Assignment Word) (spelled : String) : String :=
  match a.assigned with
  | .value _ => spelled
  | .items _ items => spelled ++ "(" ++ items ++ ")"

/-- The rest of a simple command. At most so many pieces are read. -/
def gather (inner : Inner) (line : Nat) : Nat → Gathered → Reading Command
  | 0, g => pure (g.command line)
  | n + 1, g => do
    match ← nextWhere inner false false g.words.isEmpty with
    | .word w =>
      let spelled := (← Act.read).spelled
      let declares := (g.words.getLast?.bind Word.plain?).any declaring.contains
      let a ← if g.words.isEmpty || declares then assignment inner w else pure none
      let add (text : String) : Gathered := { g with spelled := text :: g.spelled }
      match g.words.isEmpty, a with
      | true, some a =>
        gather inner line n { add (spelledAssignment a spelled) with
          assignments := g.assignments ++ [a] }
      | false, some a =>
        match a.assigned with
        | .items .. => gather inner line n { add (spelledAssignment a spelled) with
            assignments := g.assignments ++ [a]
            words := Word.ofText a.name :: g.words }
        | .value _ => gather inner line n { add spelled with words := w :: g.words }
      | _, none => gather inner line n { add spelled with words := w :: g.words }
    | .redirect stream arrow chosen =>
      let rs ← redirection inner stream arrow chosen
      gather inner line n { g with redirects := g.redirects ++ rs }
    | t =>
      match t, g.assignments, g.words, g.redirects with
      | .openGroup, [], [w], [] => definition inner w
      | _, _, _, _ =>
        giveBack t
        pure (g.command line)


end Reading

end AslBuild.Shell
