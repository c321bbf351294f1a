import AslBuild.Tools.Task
set_option autoImplicit false

/-!
# Options of tools

An option is a letter behind a dash, or a word behind two; it may take an argument. Options may
stand behind other arguments, unless a tool wants them in front.

## Main definitions

* `AslBuild.Tools.Choices` — the options that a tool knows.
* `AslBuild.Tools.Arity`, `AslBuild.Tools.OptionWord` — how options take arguments, and their words.
* `AslBuild.Tools.Given` — the options that it was given, and its other arguments.
* `AslBuild.Tools.given` — the options among the arguments.
-/

namespace AslBuild.Tools

/-- The options that a tool knows. -/
structure Choices where
  /-- The letters. One colon follows a letter that takes an argument, two one that may take one. The
  sign `#` stands for numbers, which are options of that letter then. -/
  letters : String
  /-- The words, each with the letter that it stands for. Colons follow those that have to say
  themselves whether they take an argument, which matters where their letter is for them alone. -/
  words : List (String × Char) := []
  /-- Whether options stand in front of all other arguments. -/
  ordered : Bool := false
  /-- The status if the arguments make no sense. -/
  trouble : Nat := 1
  /-- A line that is printed if the arguments make no sense, besides the usual one. -/
  hint : String := ""
  /-- What stands in front of the line that tells where to find help. -/
  helpLead : String := ""

/-- The options that a tool was given, each with its argument, and its other arguments. -/
structure Given where
  /-- The options in their order. -/
  options : List (Char × String) := []
  /-- The other arguments. -/
  operands : List String := []

namespace Given

/-- Whether an option was given. -/
def has (g : Given) (c : Char) : Bool := g.options.any fun o => o.1 == c

/-- The last argument of an option. -/
def value? (g : Given) (c : Char) : Option String := g.options.reverse.lookup c

/-- All arguments of an option. -/
def values (g : Given) (c : Char) : List String :=
  (g.options.filter fun o => o.1 == c).map (·.2)

/-- The option among some that was given last. -/
def last? (g : Given) (among : List Char) : Option Char :=
  (g.options.reverse.find? fun o => among.contains o.1).map (·.1)

end Given

/-- How an option takes an argument. -/
inductive Arity
  | none
  | needed
  | possible
deriving DecidableEq

/-- How an option takes an argument that some colons follow. -/
def Arity.ofColons : List Char → Arity
  | ':' :: ':' :: _ => .possible
  | ':' :: _ => .needed
  | _ => .none

/-- How the option of a letter takes an argument. -/
def Choices.arity (c : Choices) (letter : Char) : Arity :=
  .ofColons ((c.letters.toList.dropWhile (· != letter)).drop 1)

/-- A word that stands for an option. -/
structure OptionWord where
  /-- The word. -/
  name : String
  /-- The letter of the option. -/
  letter : Char
  /-- How it takes an argument. -/
  arity : Arity
deriving DecidableEq

/-- The letter of the option that asks for help. -/
def helpLetter : Char := '?'

/-- The letter of the option that asks which version of a tool this is. -/
def versionLetter : Char := '!'

/-- The words that a tool knows. -/
def Choices.optionWords (c : Choices) : List OptionWord :=
  (c.words.map fun (word, letter) =>
    let name := word.toList.takeWhile (· != ':')
    let colons := word.toList.drop name.length
    ⟨String.ofList name, letter, if colons.isEmpty then c.arity letter else .ofColons colons⟩) ++
  if c.words.any fun w => w.2 == helpLetter then []
  else [⟨"help", helpLetter, .none⟩, ⟨"version", versionLetter, .none⟩]

/-- Complain about an option, and end. -/
def refuse {α : Type} (c : Choices) (message : String) : Task α := do
  remark message
  tell c.hint
  tell (c.helpLead ++ "Try '" ++ (← Act.read).name ++ " --help' for more information.\n")
  quit c.trouble

/-- The options among some arguments, of which at most so many are read. -/
def givenUpTo (c : Choices) : Nat → List String → Given → Task Given
  | 0, _, g => pure g
  | _, [], g => pure g
  | n + 1, a :: args, g => do
    let add (letter : Char) (value : String) : Given :=
      { g with options := g.options ++ [(letter, value)] }
    match a.toList with
    | ['-', '-'] => pure { g with operands := g.operands ++ args }
    | '-' :: '-' :: word => do
      let name := String.ofList (word.takeWhile (· != '='))
      let value? : Option String :=
        if word.contains '=' then some (String.ofList (word.drop (name.length + 1))) else Option.none
      let exact := c.optionWords.filter fun w => w.name == name
      let fitting : List OptionWord :=
        if exact.isEmpty then c.optionWords.filter fun w => w.name.startsWith name else exact
      match fitting with
      | [] => refuse c ("unrecognized option '" ++ a ++ "'")
      | w :: others =>
        if others.any fun o => o.letter != w.letter || o.arity != w.arity then
          refuse c ("option '" ++ a ++ "' is ambiguous; possibilities:" ++
            String.join (fitting.map fun w => " '--" ++ w.name ++ "'"))
        else
          match w.arity, value?, args with
          | .needed, some v, _ => givenUpTo c n args (add w.letter v)
          | .needed, Option.none, v :: args => givenUpTo c n args (add w.letter v)
          | .needed, Option.none, [] =>
            refuse c ("option '--" ++ w.name ++ "' requires an argument")
          | .possible, v, _ => givenUpTo c n args (add w.letter (v.getD ""))
          | _, some _, _ => refuse c ("option '--" ++ w.name ++ "' doesn't allow an argument")
          | _, Option.none, _ =>
            if w.letter = helpLetter ∨ w.letter = versionLetter then
              say ("Usage: " ++ (← Act.read).name ++ " [OPTION]...\n")
              quit 0
            else givenUpTo c n args (add w.letter "")
    | '-' :: letter :: rest => do
      let ds := if c.letters.toList.contains '#' then (letter :: rest).takeWhile Char.isDigit else []
      if !ds.isEmpty then
        let rest := (letter :: rest).drop ds.length
        let args := if rest.isEmpty then args else String.ofList ('-' :: rest) :: args
        givenUpTo c n args (add '#' (String.ofList ds))
      else if !c.letters.toList.contains letter || letter = ':' || letter = '#' then
        refuse c ("invalid option -- '" ++ letter.toString ++ "'")
      else
        match c.arity letter, rest, args with
        | .needed, [], v :: args => givenUpTo c n args (add letter v)
        | .needed, [], [] =>
          refuse c ("option requires an argument -- '" ++ letter.toString ++ "'")
        | .needed, rest, _ => givenUpTo c n args (add letter (String.ofList rest))
        | .possible, rest, _ => givenUpTo c n args (add letter (String.ofList rest))
        | _, [], _ => givenUpTo c n args (add letter "")
        | _, rest, _ => givenUpTo c n (String.ofList ('-' :: rest) :: args) (add letter "")
    | _ =>
      if c.ordered then pure { g with operands := a :: args }
      else givenUpTo c n args { g with operands := g.operands ++ [a] }

/-- The options among some arguments. A variable can ask for options to stand in front of all other
arguments. -/
def given (c : Choices) (args : List String) : Task Given := do
  let strict := ((← Act.read).process.value? "POSIXLY_CORRECT").isSome
  let c := if strict then { c with ordered := true } else c
  givenUpTo c ((args.map String.length).foldl (· + ·) 0 + args.length + 1) args {}

end AslBuild.Tools
