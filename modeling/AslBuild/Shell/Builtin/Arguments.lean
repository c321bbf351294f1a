import AslBuild.Shell.Builtin.Variables
set_option autoImplicit false

/-!
# Arguments of the shell

## Main definitions

* `AslBuild.Shell.Builtin.shift` — leave out arguments.
* `AslBuild.Shell.Builtin.getopts` — read arguments as options.
-/

namespace AslBuild.Shell

open FileSystem Host Text

namespace Builtin

/-- Leave out arguments. -/
def shift : Builtin := fun args => do
  let s ← Act.read
  let n ← match args with
    | [] => pure 1
    | a :: _ => number a
  if s.arguments.length < n then
    if s.extended then pure 1 else fail "can't shift that many"
  else
    Act.update fun s => { s with arguments := s.arguments.drop n }
    pure 0

/-- What comes of looking for the next option. -/
structure Found where
  /-- The letter, or a sign that something is wrong. -/
  letter : Char
  /-- The argument of the option. -/
  argument : Option String
  /-- The number of the argument that is read next, and the place in it. -/
  index : Nat
  place : Nat
  /-- What is said. -/
  message : Option String := none
  /-- Whether there are no more options. -/
  finished : Bool := false

/-- What follows the letter of an option in the letters that are known, if it is one of them. A colon
behind a letter is gone past, but not one at the start. -/
def known? (letter : Char) : List Char → Option (List Char)
  | [] => none
  | c :: rest =>
    if c = letter then some rest
    else match rest with
      | ':' :: more => known? letter more
      | rest => known? letter rest

/-- Look for the next option among some arguments, from a place in one of them on. -/
def nextOption (extended : Bool) (spec : List Char) (args : List String) (index place : Nat) :
    Found :=
  let silent := spec.head? == some ':'
  let inWord : List Char :=
    if 1 < index ∧ 0 < place then ((args[index - 2]?).getD "").toList.drop place else []
  let ended (index : Nat) : Found := ⟨'?', none, index, 0, none, true⟩
  let start : Option (List Char × Nat × Nat) :=
    if !inWord.isEmpty then some (inWord, index, place)
    else match (args[index - 1]?).map String.toList with
      | some ('-' :: c :: cs) =>
        if c = '-' ∧ cs.isEmpty then none else some (c :: cs, index + 1, 1)
      | _ => none
  match start with
  | none => ended (if args[index - 1]? = some "--" then index + 1 else index)
  | some ([], index, _) => ended index
  | some (c :: cs, index, place) =>
    let next := if cs.isEmpty then 0 else place + 1
    let missing : Found :=
      if silent then ⟨':', some c.toString, index, 0, none, false⟩
      else ⟨'?', none, index, 0,
        some (if extended then "option requires an argument -- " ++ c.toString
          else "No arg for -" ++ c.toString ++ " option"), false⟩
    match if c = ':' ∧ extended then none else known? c spec with
    | none =>
      if silent then ⟨'?', some c.toString, index, next, none, false⟩
      else ⟨'?', none, index, next,
        some (if extended then "illegal option -- " ++ c.toString
          else "Illegal option -" ++ c.toString), false⟩
    | some (':' :: _) =>
      if cs.isEmpty then
        match args[index - 1]? with
        | some value => ⟨c, some value, index + 1, 0, none, false⟩
        | none => missing
      else ⟨c, some (String.ofList cs), index, 0, none, false⟩
    | _ => ⟨c, some "", index, next, none, false⟩

/-- Read the next option. -/
def getopts : Builtin := fun args => do
  match args with
  | spec :: name :: rest =>
    let s ← Act.read
    let args := if rest.isEmpty then s.arguments else rest
    let found := nextOption s.extended spec.toList args s.optionIndex s.optionPlace
    match found.message with
    | some m =>
      let lead := if s.extended then s.name ++ ": " else ""
      onMachine fun p => printTo p 2 (lead ++ m ++ "\n")
    | none => pure ()
    match found.argument with
    | some a => if !(s.extended && a.isEmpty) then assign "OPTARG" a
    | none => if found.finished then pure () else unsetVariable "OPTARG"
    assign "OPTIND" (toString found.index)
    assign name found.letter.toString
    Act.update fun s => { s with optionIndex := found.index, optionPlace := found.place }
    pure (if found.finished then 1 else 0)
  | _ => fail "Usage: getopts optstring var [arg...]"

end Builtin

end AslBuild.Shell
