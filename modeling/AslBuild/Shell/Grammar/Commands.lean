import AslBuild.Shell.Grammar.Simple
import AslBuild.Shell.Grammar.Tests
set_option autoImplicit false

/-!
# Reading commands

The depth of nesting is bounded by the length of the script.

## Main definitions

* `AslBuild.Shell.Reading.command`, `AslBuild.Shell.Reading.list` — read commands.
* `AslBuild.Shell.Source.next` — the next complete command of a script.
-/

namespace AslBuild.Shell

namespace Reading

/-! ## Compound commands -/

/-- A command with redirections, if there are any. -/
def withRedirects (line : Nat) (body : Command) (redirects : List (Redirect Word)) : Command :=
  match body with
  | .apart line body _ => .apart line body redirects
  | body => if redirects.isEmpty then body else .redirected line body redirects

/-- The branches of a choice after its test. At most so many are read. -/
def branches (inner : Inner) : Nat → Command → Reading Command
  | 0, _ => unexpected none
  | n + 1, test => do
    expectKeyword inner "then" false
    let yes ← inner.list
    match ← next inner false true with
    | .keyword "elif" =>
      let second ← inner.list
      pure (.choice test yes (← branches inner n second))
    | .keyword "else" =>
      let no ← inner.list
      expectKeyword inner "fi" false
      pure (.choice test yes no)
    | t =>
      giveBack t
      expectKeyword inner "fi" false
      pure (.choice test yes .nothing)

/-- The words of a loop, each with how it is spelled. At most so many are read. -/
def loopWords (inner : Inner) : Nat → Reading (List (Word × String))
  | 0 => pure []
  | n + 1 => do
    match ← next inner false false with
    | .word w =>
      let spelled := (← Act.read).spelled
      pure ((w, spelled) :: (← loopWords inner n))
    | .newline => pure []
    | .semicolon => pure []
    | _ => unexpected none

/-- A body between two keywords, or in braces where those are allowed. -/
def loopBody (inner : Inner) : Reading Command := do
  match (← Act.read).extended, ← next inner true true with
  | true, .keyword "\x7b" =>
    let body ← inner.list
    expectKeyword inner "\x7d" false
    pure body
  | _, .keyword "do" =>
    let body ← inner.list
    expectKeyword inner "done" false
    pure body
  | _, _ => unexpected (some "\"do\"")

/-- All arguments, one word each. -/
def allArguments : List Word := [[.parameter "@" none .plain true]]

/-- How all arguments are spelled. -/
def spelledArguments : String := "\"$@\""

/-- A loop over words, the name of whose variable is a word that was read. -/
def wordLoop (inner : Inner) (line : Nat)
    (build : Nat → String → List Word → String → Command → Command) (w : Word) :
    Reading Command := do
  match w.plain? with
  | some name =>
    if !isName name.toList then refuse "Bad for loop variable"
    else
      match ← next inner true true with
      | .keyword "in" =>
        let words ← loopWords inner (← bound)
        let spelled := " ".intercalate (words.map (·.2))
        pure (build line name (words.map (·.1)) spelled (← loopBody inner))
      | .semicolon =>
        pure (build line name allArguments spelledArguments (← loopBody inner))
      | t =>
        giveBack t
        pure (build line name allArguments spelledArguments (← loopBody inner))
  | none => refuse "Bad for loop variable"

/-- A part of a loop, up to its end, and how it is spelled. -/
def loopPart (inner : Inner) (m : Mode) : Reading (Word × String) := do
  let before := (← Act.read).rest
  let w ← inner.parts m
  let length := before.length - (← Act.read).rest.length
  let marks := match m with
    | .arithmetic _ => 2
    | _ => 1
  pure (w, (String.ofList (before.take (length - marks))).trimAsciiStart.toString)

/-- A loop over words or with calculations, after its keyword. -/
def eachLoop (inner : Inner) (line : Nat) : Reading Command := do
  let extended := (← Act.read).extended
  match ← next inner false false with
  | .word w => wordLoop inner line .each w
  | .openGroup =>
    if extended && (← skipIf '(') then
      let start ← loopPart inner (.part 0)
      let test ← loopPart inner (.part 0)
      let step ← loopPart inner (.arithmetic 0)
      match ← next inner true true with
      | .semicolon => pure ()
      | t => giveBack t
      pure (.count line start.1 test.1 step.1 (start.2 ++ "; " ++ test.2 ++ "; " ++ step.2)
        (← loopBody inner))
    else refuse "Bad for loop variable"
  | _ => refuse "Bad for loop variable"

/-- A choice from a list, after its keyword. -/
def menuLoop (inner : Inner) (line : Nat) : Reading Command := do
  match ← next inner false false with
  | .word w => wordLoop inner line .menu w
  | _ => unexpected none

/-- The patterns of a clause, the first of which was read, each with how it is spelled. At most so many
are read. -/
def patterns (inner : Inner) : Nat → Word × String → Reading (List (Word × String))
  | 0, w => pure [w]
  | n + 1, w => do
    match ← next inner false false with
    | .pipe =>
      let t ← next inner false false
      let spelled := (← Act.read).spelled
      pure (w :: (← patterns inner n (t.asWord, spelled)))
    | .closeGroup => pure [w]
    | _ => unexpected (some "\")\"")

/-- The clauses of a selection. At most so many are read. -/
def clauses (inner : Inner) : Nat → Reading (List (Clause Word Command))
  | 0 => pure []
  | n + 1 => do
    match ← next inner true true with
    | .keyword "esac" => pure []
    | t =>
      let first ← match t with
        | .openGroup => next inner false false
        | t => pure t
      let ws ← patterns inner (← bound) (first.asWord, (← Act.read).spelled)
      let body ← inner.clause
      let clause (after : After) : Clause Word Command :=
        ⟨ws.map (·.1), " | ".intercalate (ws.map (·.2)), body, after⟩
      match ← next inner true true with
      | .keyword "esac" => pure [clause .stop]
      | .endClause after => pure (clause after :: (← clauses inner n))
      | _ => unexpected (some "\";;\"")

/-- A selection, after its keyword. -/
def selection (inner : Inner) (line : Nat) : Reading Command := do
  match ← next inner false false with
  | .word w =>
    let spelled := (← Act.read).spelled
    expectKeyword inner "in" true
    pure (.select line w spelled (← clauses inner (← bound)))
  | _ => unexpected (some "word")

/-! ## Commands -/

/-- A function that is defined by a keyword, which was read. -/
def keywordDefinition (inner : Inner) : Reading Command := do
  match ← next inner false false with
  | .word w =>
    let name := String.ofList (textOf w)
    match ← next inner true true with
    | .openGroup =>
      let _ ← next inner false false
      giveBack (← next inner true true)
    | t => giveBack t
    pure (.define name (← inner.command))
  | _ => unexpected none

/-- A command, simple or put together. -/
def command (inner : Inner) : Reading Command := do
  let line := (← Act.read).line
  let extended := (← Act.read).extended
  let finish (body : Command) : Reading Command := do
    pure (withRedirects line body (← redirections inner (← bound)))
  match ← next inner false true with
  | .keyword "if" =>
    let test ← inner.list
    finish (← branches inner (← bound) test)
  | .keyword "while" =>
    let test ← inner.list
    finish (.loop true test (← loopBody inner))
  | .keyword "until" =>
    let test ← inner.list
    finish (.loop false test (← loopBody inner))
  | .keyword "for" => finish (← eachLoop inner line)
  | .keyword "select" => finish (← menuLoop inner line)
  | .keyword "case" => finish (← selection inner line)
  | .keyword "\x7b" =>
    let body ← inner.list
    expectKeyword inner "\x7d" false
    finish (.group body)
  | .keyword "[[" =>
    let (c, spelled) ← inner.condition
    expectKeyword inner "]]" true
    finish (.condition line c ("[[ " ++ spelled ++ " ]]"))
  | .keyword "function" => keywordDefinition inner
  | .openGroup =>
    if extended && (← lookHere) = some '(' then
      skip
      let before := (← Act.read).rest
      let e ← inner.parts (.arithmetic 0)
      let length := before.length - (← Act.read).rest.length
      finish (.calculation line e ("((" ++ String.ofList (before.take (length - 2)) ++ "))"))
    else
      let body ← inner.list
      match ← next inner false false with
      | .closeGroup => finish (.apart line body [])
      | _ => unexpected (some "\")\"")
  | .word w =>
    giveBack (.word w)
    let line := (← Act.read).line
    gather inner line (← bound) {}
  | .redirect stream arrow chosen =>
    giveBack (.redirect stream arrow chosen)
    let line := (← Act.read).line
    gather inner line (← bound) {}
  | _ => unexpected none

/-- A command whose messages go where its output goes. -/
def withMessages (c : Command) : Command :=
  let both : Redirect Word :=
    { stream := 2, direction := .copy, target := Word.ofText "1", spelled := "2>&1" }
  match c with
  | .simple line assignments words spelled redirects =>
    .simple line assignments words spelled (redirects ++ [both])
  | c => .redirected 0 c [both]

/-- The stages of a pipe, the first one of which was read. At most so many are read. -/
def stages (inner : Inner) : Nat → Command → Reading (List Command)
  | 0, c => pure [c]
  | n + 1, c => do
    match ← next inner false false with
    | .pipe =>
      giveBack (← next inner true true)
      pure (c :: (← stages inner n (← command inner)))
    | .pipeBoth =>
      giveBack (← next inner true true)
      pure (withMessages c :: (← stages inner n (← command inner)))
    | t =>
      giveBack t
      pure [c]

/-- The piece behind a word that asks for the time that a command takes. No time passes. -/
def pastTime (inner : Inner) (t : Lexeme) : Reading Lexeme := do
  if (← Act.read).extended && t.asWord.plain? == some "time" then
    match ← next inner false true with
    | .word w => if w.plain? = some "-p" then next inner false true else pure (.word w)
    | t => pure t
  else pure t

/-- Commands that hand on their output. -/
def pipeline (inner : Inner) : Reading Command := do
  let negated ← match ← pastTime inner (← next inner false true) with
    | .keyword "!" => do
      giveBack (← next inner false true)
      pure true
    | t => do
      giveBack t
      pure false
  let first ← command inner
  let all ← stages inner (← bound) first
  let body := match all with
    | [only] => only
    | all => .pipe all
  pure (if negated then .not body else body)

/-- Commands with conditions between them, after the first one. At most so many are read. -/
def chain (inner : Inner) : Nat → Command → Reading Command
  | 0, c => pure c
  | n + 1, c => do
    match ← next inner false false with
    | .andIf =>
      giveBack (← next inner true true)
      chain inner n (.both c (← pipeline inner))
    | .orIf =>
      giveBack (← next inner true true)
      chain inner n (.either c (← pipeline inner))
    | t =>
      giveBack t
      pure c

/-- Commands, the last one first, as one command. -/
def sequenceOf : List Command → Command
  | [] => .nothing
  | [c] => c
  | cs => .sequence cs.reverse

/-- A list of commands; nothing if the script has ended. The commands that were read are given, the
last one first. At most so many are read. -/
def items (inner : Inner) (ending : Ending) : Nat → List Command → Reading (Option Command)
  | 0, cs => pure (some (sequenceOf cs))
  | n + 1, cs => do
    let t ← next inner (ending != .line) true
    let ends := ending != .line && (ending == .clause || !cs.isEmpty) && t.endsList
    match t with
    | .newline => pure (some (sequenceOf cs))
    | .finish =>
      giveBack .finish
      pure (if ending == .line && cs.isEmpty then none else some (sequenceOf cs))
    | t =>
      giveBack t
      if ends then pure (some (sequenceOf cs))
      else
        let c ← chain inner (← bound) (← pipeline inner)
        match ← next inner false false with
        | .ampersand => items inner ending n (.background c :: cs)
        | .semicolon => items inner ending n (c :: cs)
        | .newline =>
          giveBack .newline
          items inner ending n (c :: cs)
        | .finish =>
          giveBack .finish
          pure (some (sequenceOf (c :: cs)))
        | t =>
          if ending = .line then unexpected none
          else
            giveBack t
            pure (some (sequenceOf (c :: cs)))

/-- A list of commands, as part of another command. -/
def list (inner : Inner) (ending : Ending) : Reading Command := do
  pure ((← items inner ending (← bound) []).getD .nothing)

/-! ## Nesting -/

/-- How to read what is nested at most so deep. -/
def nested : Nat → Inner
  | 0 =>
    { parts := fun _ => refuse "too deep"
      list := refuse "too deep"
      clause := refuse "too deep"
      command := refuse "too deep"
      condition := refuse "too deep" }
  | n + 1 =>
    { parts := fun m s => parts (nested n) m s
      list := fun s => list (nested n) .block s
      clause := fun s => list (nested n) .clause s
      command := fun s => command (nested n) s
      condition := fun s => condition (nested n) s }

end Reading

namespace Source

/-- How to read what is nested in what is left of a script. -/
def inner (s : Source) : Inner := Reading.nested (2 * s.rest.length + 20)

/-- The next complete command of a script, or nothing at its end, and what is left of the script. -/
def next (s : Source) : Except Misreading (Option Command) × Source :=
  Act.run (Reading.items s.inner .line (s.rest.length + 2) [])
    { s with back := none, awaited := [] }

/-- A text that is read as if in double quotes, up to its end. -/
def expandable (text : String) (extended : Bool) : Word :=
  let s : Source := { rest := text.toList, extended }
  match Act.run (s.inner.parts .document) s with
  | (.ok w, _) => w
  | (.error _, _) => [.text text.toList true]

end Source

end AslBuild.Shell
