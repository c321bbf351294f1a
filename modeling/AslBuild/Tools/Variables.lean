import AslBuild.Tools.Running
set_option autoImplicit false

/-!
# Variables of programs

## Main definitions

* `AslBuild.Tools.splitWords` — the words of a text that stands for several arguments.
* `AslBuild.Tools.env` — run a program with other variables.
* `AslBuild.Tools.printenv` — print variables.
-/

namespace AslBuild.Tools

open FileSystem Host Text

/-! ## Texts for several arguments -/

/-- The words that were read of a text, the last of them first, and the one that was begun. -/
structure Splitting where
  /-- The words that are complete. -/
  words : List String := []
  /-- The word that was begun, the last character first. -/
  word : Option (List Char) := none
  /-- The quote that is open. -/
  quote : Option Char := none

namespace Splitting

/-- Add a character to the word. -/
def add (s : Splitting) (c : Char) : Splitting := { s with word := some (c :: s.word.getD []) }

/-- End the word. -/
def stop (s : Splitting) : Splitting :=
  match s.word with
  | some cs => { s with words := String.ofList cs.reverse :: s.words, word := none }
  | none => s

/-- All words. -/
def all (s : Splitting) : List String := s.stop.words.reverse

end Splitting

/-- The control characters that letters stand for. -/
def controlLetters : List (Char × Char) :=
  [('f', '\x0c'), ('n', '\n'), ('r', '\r'), ('t', '\t'), ('v', '\x0b')]

/-- The name of a variable in braces behind a sign for one, and what follows. -/
def bracedName? : List Char → Option (String × List Char)
  | '\x7b' :: cs =>
    let name := cs.takeWhile fun c => c.isAlphanum || c == '_'
    match name, cs.drop name.length with
    | c :: _, '\x7d' :: rest => if c.isDigit then none else some (String.ofList name, rest)
    | _, _ => none
  | _ => none

/-- The words of a text. A word ends at a blank outside quotes; escapes and variables are replaced by
what they stand for. At most so many characters are read. The failure is what is said of a text that
makes no sense. -/
def splitFrom (value? : String → Option String) : Nat → Splitting → List Char →
    Except String (List String)
  | 0, s, _ => .ok s.all
  | _, s, [] => if s.quote.isSome then .error "no terminating quote in -S string" else .ok s.all
  | n + 1, s, c :: cs =>
    let go (s : Splitting) (cs : List Char) : Except String (List String) := splitFrom value? n s cs
    if (c = '\'' ∨ c = '"') ∧ (s.quote = none ∨ s.quote = some c) then
      go { s with
        quote := if s.quote = none then some c else none
        word := some (s.word.getD []) } cs
    else if s.quote.isNone && (c == ' ' || (0x09 ≤ c.toNat && c.toNat ≤ 0x0D)) then go s.stop cs
    else if c = '#' ∧ s.quote = none ∧ s.word = none then .ok s.all
    else if c = '\\' then
      match s.quote, cs with
      | _, '\\' :: cs => go (s.add '\\') cs
      | _, '\'' :: cs => go (s.add '\'') cs
      | some '\'', cs => go (s.add '\\') cs
      | _, [] => .error "invalid backslash at end of string in -S"
      | none, '_' :: cs => go s.stop cs
      | some _, '_' :: cs => go (s.add ' ') cs
      | none, 'c' :: _ => .ok s.all
      | some _, 'c' :: _ => .error "'\\c' must not appear in double-quoted -S string"
      | _, d :: cs =>
        if d = '"' ∨ d = '#' ∨ d = '$' then go (s.add d) cs
        else match controlLetters.lookup d with
          | some control => go (s.add control) cs
          | none => .error ("invalid sequence '\\" ++ d.toString ++ "' in -S")
    else if c = '$' ∧ s.quote ≠ some '\'' then
      match bracedName? cs with
      | some (name, rest) =>
        match value? name with
        | some value =>
          go (value.toList.foldl Splitting.add { s with word := some (s.word.getD []) }) rest
        | none => go s rest
      | none =>
        .error ("only $\x7bVARNAME\x7d expansion is supported, error at: " ++ String.ofList (c :: cs))
    else go (s.add c) cs

/-- The words of a text. -/
def splitWords (value? : String → Option String) (text : String) : Except String (List String) :=
  splitFrom value? (text.length + 1) {} text.toList

/-! ## Running programs with other variables -/

/-- The options of `env`. -/
def envChoices : Choices where
  letters := "0C:iS:u:v"
  words := [("ignore-environment", 'i'), ("null", '0'), ("unset", 'u'), ("chdir", 'C'),
    ("default-signal::", 'd'), ("ignore-signal::", 'g'), ("block-signal::", 'k'),
    ("list-signal-handling", 'l'), ("debug", 'v'), ("split-string", 'S')]
  ordered := true
  trouble := 125

/-- Say something about what is done, if that is asked for. -/
def narrate (aloud : Bool) (text : String) : Task Unit := if aloud then tell (text ++ "\n") else pure ()

/-- The words of a text that stands for several arguments. -/
def splitArgument (aloud : Bool) (text : String) : Task (List String) := do
  let p := (← Act.read).process
  match splitWords p.value? text with
  | .error message => die 125 message
  | .ok words => do
    narrate aloud ("split -S:  " ++ cited text)
    words.zipIdx.forM fun (word, i) =>
      narrate aloud ((if i = 0 then " into:    " else "     &    ") ++ cited word)
    pure words

/-- Arguments with those that stand for several ones replaced by these, at most so many. -/
def withSplits : Nat → Bool → List String → Task (List String)
  | 0, _, args => pure args
  | _, _, [] => pure []
  | n + 1, aloud, a :: args => do
    let split (text : String) (aloud : Bool) (rest : List String) : Task (List String) := do
      withSplits n aloud ((← splitArgument aloud text) ++ rest)
    let isSplit (word : List Char) : Bool :=
      "split-string".startsWith (String.ofList word) && !word.isEmpty && word != ['s']
    match a.toList with
    | '-' :: '-' :: word =>
      let name := word.takeWhile (· != '=')
      if word.isEmpty then pure (a :: args)
      else if isSplit name then
        if name.length < word.length then
          split (String.ofList (word.drop (name.length + 1))) aloud args
        else match args with
          | text :: rest => split text aloud rest
          | [] => pure [a]
      else if ["unset", "chdir"].contains (String.ofList word) then
        match args with
        | value :: rest => do pure (a :: value :: (← withSplits n aloud rest))
        | [] => pure [a]
      else do pure (a :: (← withSplits n (aloud || "debug".startsWith (String.ofList word)) args))
    | '-' :: c :: cs =>
      let front := (c :: cs).takeWhile fun c => c == 'i' || c == '0' || c == 'v'
      let aloud := aloud || front.contains 'v'
      let flags := if front.isEmpty then [] else [String.ofList ('-' :: front)]
      match (c :: cs).drop front.length with
      | ['S'] =>
        match args with
        | text :: rest => do pure (flags ++ (← split text aloud rest))
        | [] => pure (a :: args)
      | 'S' :: text => do pure (flags ++ (← split (String.ofList text) aloud args))
      | ['u'] | ['C'] =>
        match args with
        | value :: rest => do pure (a :: value :: (← withSplits n aloud rest))
        | [] => pure [a]
      | _ => do pure (a :: (← withSplits n aloud args))
    | _ => pure (a :: args)

/-- Set a variable, at its place or behind the others. -/
def setVariable (name value : String) (p : Process) : Process :=
  { p with bindings :=
      if p.bindings.any fun v => v.1 == name then
        p.bindings.map fun v => if v.1 == name then (name, value) else v
      else p.bindings ++ [(name, value)] }

/-- The assignments in front of some words, and the other words. -/
def leadingAssignments (words : List String) : List (String × String) × List String :=
  let (front, rest) := words.span fun w => w.toList.contains '='
  (front.map fun w =>
    let name := String.ofList (w.toList.takeWhile (· != '='))
    (name, (w.drop (name.length + 1)).toString), rest)

/-- Take a variable away. -/
def unsetVariable (name : String) : Task Unit := do
  if name.isEmpty || name.toList.contains '=' then
    die 125 ("cannot unset " ++ cited name ++ ": Invalid argument")
  changeProcess fun p => { p with bindings := p.bindings.filter fun v => v.1 != name }

/-- Go to another directory. -/
def changeDirectory (dir : String) : Task Unit := do
  let d ← files
  let refused (reason : String) : Task Unit :=
    die 125 ("cannot change directory to " ++ quoted dir ++ ": " ++ reason)
  match d.stat ⟨Raw.toText dir⟩ with
  | .ok (loc, .dir mode) =>
    if mayEnter mode then changeProcess fun p => { p with cwd := loc }
    else refused "Permission denied"
  | .ok _ => refused "Not a directory"
  | .error e => refused (reasonOf e)

/-- The variables as they are listed. -/
def listedVariables (p : Process) (finish : String) : String :=
  String.join (p.bindings.map fun v => v.1 ++ "=" ++ v.2 ++ finish)

/-- The signals that an option names. -/
def signalsOf (text : String) : Task (List Nat) :=
  (text.splitOn ",").mapM fun name => do
    match Signal.ofText? name with
    | some signal => pure signal
    | none => misuse 125 (cited name ++ ": invalid signal")

/-- Go on as the program that words name, and say how if that is asked for. -/
def becomeAloud (launch : Launch) (aloud : Bool) (words : List String) : Task Unit := do
  narrate aloud ("executing: " ++ words.headD "")
  words.zipIdx.forM fun (word, i) => narrate aloud ("   arg[" ++ toString i ++ "]= " ++ cited word)
  match words with
  | [] => pure ()
  | name :: arguments => do
    match ← becoming (α := Unit) launch name arguments with
    | .ok () => pure ()
    | .error e => do
      remark (cited name ++ ": " ++ reasonOf e)
      if e = .os .noEntry ∧ name.toList.contains ' ' then
        remark "use -[v]S to pass options in shebang lines"
      quit (unstartable e)

/-- Print the variables, or run a program with other ones. -/
def env : Tool := .ofLaunching fun launch args => do
  let args ← withSplits ((args.map String.length).foldl (· + ·) 0 + args.length + 1) false args
  let choices := if args.any fun a => a.startsWith "- " then
    { envChoices with hint := "env: use -[v]S to pass options in shebang lines\n" } else envChoices
  let g ← given choices args
  let aloud := g.has 'v'
  let ignored ← (g.values 'g').mapM fun t => if t.isEmpty then pure [] else signalsOf t
  changeProcess fun p => { p with deaf := p.deaf ++ ignored.flatten }
  let (dash, words) := match g.operands with
    | "-" :: words => (true, words)
    | words => (false, words)
  if g.has 'i' || dash then
    narrate aloud "cleaning environ"
    changeProcess fun p => { p with bindings := [] }
  else
    (g.values 'u').forM fun name => do
      narrate aloud ("unset:    " ++ name)
      unsetVariable name
  let (settings, words) := leadingAssignments words
  settings.forM fun (name, value) => do
    narrate aloud ("setenv:   " ++ name ++ "=" ++ value)
    changeProcess (setVariable name value)
  if g.has '0' && !words.isEmpty then misuse 125 "cannot specify --null (-0) with command"
  if g.has 'C' && words.isEmpty then misuse 125 "must specify command with --chdir (-C)"
  if words.isEmpty then
    say (listedVariables (← Act.read).process (if g.has '0' then "\x00" else "\n"))
  else
    match g.value? 'C' with
    | some dir =>
      narrate aloud ("chdir:    " ++ quoted dir)
      changeDirectory dir
    | none => pure ()
    becomeAloud launch aloud words

/-! ## Printing variables -/

/-- The options of `printenv`. -/
def printenvChoices : Choices where
  letters := "0"
  words := [("null", '0')]
  ordered := true
  trouble := 2

/-- Print variables. -/
def printenv : Tool := .ofTask fun args => do
  let g ← given printenvChoices args
  let finish := if g.has '0' then "\x00" else "\n"
  let p := (← Act.read).process
  if g.operands.isEmpty then say (listedVariables p finish)
  else
    g.operands.forM fun name => do
      match p.value? name with
      | some value => sayOr 2 (value ++ finish)
      | none => mark 1

end AslBuild.Tools
