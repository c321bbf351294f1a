import AslBuild.Shell.Builtin.Places
set_option autoImplicit false

/-!
# Directories that are put aside

The language with extensions keeps a stack of directories, on top of which is the working directory.
They are numbered from the top, or, behind a minus sign, from the bottom.

## Main definitions

* `AslBuild.Shell.Builtin.dirs` — show the directories.
* `AslBuild.Shell.Builtin.pushd`, `AslBuild.Shell.Builtin.popd` — put directories aside, and go back.
-/

namespace AslBuild.Shell

open FileSystem Host Text

namespace Builtin

/-- A path, with a sign in the place of the directory of the user. -/
def shortened (home path : String) : String :=
  if home.length ≤ 1 then path
  else if path = home then "~"
  else if path.startsWith (home ++ "/") then "~" ++ (path.drop home.length).toString
  else path

/-- The working directory and those that are put aside. -/
def State.directories (s : State) : List String := s.get "PWD" :: s.stack

/-- A number behind a sign, which has to be one. -/
def signedNumber (a : String) : Sh Nat := do
  match ((a.drop 1).toString.toNat?).filter fun _ => (a.toList.drop 1).all Char.isDigit with
  | some n => pure n
  | none => misused (a ++ ": invalid number") ""

/-- There is no directory of a number. -/
def beyondStack {α : Type} (a : String) : Sh α := do
  if (← Act.read).stack.isEmpty then fail "directory stack empty"
  else fail (a ++ ": directory stack index out of range")

/-- The place from the top of the directories that a number with a sign names. -/
def placeInStack (a : String) (count : Nat) : Sh Nat := do
  let n ← signedNumber a
  if count ≤ n then beyondStack a
  else pure (if a.startsWith "-" then count - 1 - n else n)

/-- How directories are shown. -/
structure StackForm where
  /-- Whether the directory of the user is spelled out. -/
  long : Bool := false
  /-- Whether each has a line of its own. -/
  apart : Bool := false
  /-- Whether they are numbered. -/
  numbered : Bool := false
  /-- Whether they are forgotten. -/
  clears : Bool := false
  /-- The only one that is shown. -/
  only : Option Nat := none

/-- The form that arguments ask for. -/
def readForm (form : StackForm) : List String → Sh StackForm
  | [] => pure form
  | "-l" :: args => readForm { form with long := true } args
  | "-c" :: args => readForm { form with clears := true } args
  | "-v" :: args => readForm { form with numbered := true } args
  | "-p" :: args => readForm { form with apart := true } args
  | "--" :: _ => pure form
  | a :: args => do
    if a.startsWith "+" || a.startsWith "-" then
      let count := (← Act.read).stack.length + 1
      let n ← signedNumber a
      if count ≤ n then beyondStack (a.drop 1).toString
      else readForm { form with only := some (if a.startsWith "-" then count - 1 - n else n) } args
    else misused (a ++ ": invalid option") ""

/-- Show the directories. -/
def showStack (form : StackForm) : Sh Unit := do
  let s ← Act.read
  let shown (path : String) : String := if form.long then path else shortened (s.get "HOME") path
  let line (d : String × Nat) : String :=
    let number := toString d.2
    if form.numbered then
      String.ofList (List.replicate (2 - number.length) ' ') ++ number ++ "  " ++ shown d.1
    else shown d.1
  let all := (State.directories s).zipIdx
  match form.only with
  | some n => print (((all[n]?).map line).getD "" ++ "\n")
  | none =>
    let gap := if form.apart || form.numbered then "\n" else " "
    print (gap.intercalate (all.map line) ++ "\n")

/-- Show the directories, or forget them. -/
def dirs : Builtin := fun args => do
  let form ← readForm {} args
  if form.clears then Act.update fun s => { s with stack := [] }
  else showStack form
  pure 0

/-- Go to a directory, and say where one is then. -/
def goTo (path : String) : Sh Unit := do
  if (← cd ["--", path]) ≠ 0 then
    setStatus 1
    Act.fail .failed

/-- The options in front of arguments: whether the working directory stays, and a number. -/
def readMove : List String → Sh (Bool × Option String × List String)
  | [] => pure (false, none, [])
  | a :: args =>
    if a = "-n" then do
      let (_, number, rest) ← readMove args
      pure (true, number, rest)
    else if a = "--" then pure (false, none, args)
    else if a.startsWith "+" || (a.startsWith "-" && a != "-") then do
      let _ ← signedNumber a
      let (stays, number, rest) ← readMove args
      pure (stays, some (number.getD a), rest)
    else pure (false, none, a :: args)

/-- Put the working directory aside, or bring another directory to the top. -/
def pushd : Builtin := fun args => do
  let (stays, number, rest) ← readMove args
  let s ← Act.read
  let here := s.get "PWD"
  match number, rest with
  | some a, _ => do
    let n ← placeInStack a (s.stack.length + 1)
    let turned := (State.directories s).drop n ++ (State.directories s).take n
    if !stays then goTo (turned.headD here)
    Act.update fun s => { s with stack := turned.tail }
    if !stays then showStack {}
    pure 0
  | none, [] =>
    match s.stack with
    | [] => if stays then pure 0 else fail "no other directory"
    | top :: others => do
      if stays then pure 0
      else
        goTo top
        Act.update fun s => { s with stack := here :: others }
        showStack {}
        pure 0
  | none, path :: _ => do
    if !stays then goTo path
    Act.update fun s => { s with stack := (if stays then path else here) :: s.stack }
    showStack {}
    pure 0

/-- Go back to the directory that was put aside last, or forget another one. -/
def popd : Builtin := fun args => do
  let (stays, number, rest) ← readMove args
  match rest with
  | a :: _ => misused (a ++ ": invalid argument") ""
  | [] => do
    let s ← Act.read
    match s.stack with
    | [] => fail "directory stack empty"
    | top :: others => do
      let n ← match number with
        | some a => placeInStack a (s.stack.length + 1)
        | none => pure 0
      if n = 0 then
        if !stays then goTo top
        Act.update fun s => { s with stack := others }
      else Act.update fun s => { s with stack := s.stack.eraseIdx (n - 1) }
      showStack {}
      pure 0

end Builtin

end AslBuild.Shell
