import AslBuild.Shell.Builtin.Variables
set_option autoImplicit false

/-!
# Reading lines

## Main definitions

* `AslBuild.Shell.Builtin.read` — read a line into variables.
* `AslBuild.Shell.Builtin.mapfile` — read lines into a list.
-/

namespace AslBuild.Shell

open FileSystem Host Text

namespace Builtin

/-- How a line is read. -/
structure LineForm where
  /-- The stream. -/
  stream : Nat := 0
  /-- Whether a backslash is a character like others. -/
  raw : Bool := false
  /-- The character at the end of the line. There may be none, if the characters are counted. -/
  stop : Option Char := some '\n'

/-- The characters of a line, each of which is escaped or not, as they are read one by one. The
status is 1 if the input ends first. At most so many are read. -/
def readLine (form : LineForm) : Nat → List (Char × Bool) → Sh (List (Char × Bool) × Nat)
  | 0, cs => pure (cs.reverse, 0)
  | n + 1, cs => do
    let next : Sh (Option Char) := do
      match ← onMachine fun p => readSome p form.stream (some 1) with
      | .ok (b :: _) => pure (some (Raw.charOf b))
      | _ => pure none
    match ← next with
    | none => pure (cs.reverse, 1)
    | some c =>
      if c = '\\' ∧ !form.raw then
        match ← next with
        | none => pure (cs.reverse, 1)
        | some d =>
          if d = '\n' then readLine form n cs
          else readLine form n ((d, true) :: cs)
      else if form.stop = some c then pure (cs.reverse, 0)
      else if c = Char.ofNat 0 then readLine form n cs
      else readLine form n ((c, false) :: cs)

/-- How many characters a line may have. -/
def lineLimit : Nat := 1000000

/-- Whether a character of a line separates fields, as a blank or otherwise. -/
def isGap (separators : List Char) (blank : Bool) (c : Char × Bool) : Bool :=
  !c.2 && separators.contains c.1 &&
    ((c.1 == ' ' || c.1 == '\t' || c.1 == '\n') == blank)

/-- The first field of a line, and what follows the separator behind it. -/
def firstField (separators : List Char) (cs : List (Char × Bool)) :
    List (Char × Bool) × List (Char × Bool) :=
  let isSeparator (c : Char × Bool) : Bool := isGap separators true c || isGap separators false c
  let field := cs.takeWhile fun c => !isSeparator c
  let rest := (cs.drop field.length).dropWhile (isGap separators true)
  match rest with
  | c :: more =>
    if isGap separators false c then (field, more.dropWhile (isGap separators true))
    else (field, rest)
  | [] => (field, [])

/-- The values of some variables that the fields of a line are read into. The last one takes what is
left of the line, without the blanks at its end. -/
def spread (separators : List Char) : List String → List (Char × Bool) → List (String × String)
  | [], _ => []
  | [name], cs =>
    let (field, rest) := firstField separators cs
    let whole := (cs.reverse.dropWhile (isGap separators true)).reverse
    [(name, String.ofList ((if rest.isEmpty then field else whole).map (·.1)))]
  | name :: names, cs =>
    let (field, rest) := firstField separators cs
    (name, String.ofList (field.map (·.1))) :: spread separators names rest

/-- The character at the end of a line that an argument names. -/
def stopOf (delimiter : Option String) : Char :=
  match delimiter with
  | some d => (d.toList.head?).getD (Char.ofNat 0)
  | none => '\n'

/-- A number without a sign that an argument gives, which has to be one. -/
def countOr (other : Nat) (refusal : String) (a : Option String) : Sh Nat := do
  match a with
  | none => pure other
  | some a =>
    match a.toNat?.filter fun _ => a.toList.all Char.isDigit with
    | some n => pure n
    | none => fail (a ++ ": " ++ refusal)

/-- The stream that an argument names, which has to be open. -/
def streamNamed (a : Option String) : Sh Nat := do
  let n ← countOr 0 "invalid file descriptor specification" a
  match a, (← Act.read).process.channel? n with
  | some a, none => fail (a ++ ": invalid file descriptor: Bad file descriptor")
  | _, _ => pure n

/-- The words of a line. -/
def wordsOf (separators : List Char) (cs : List (Char × Bool)) : List String :=
  (fields separators (cs.map fun c => if c.2 then Atom.char c.1 true else .value c.1)).map
    Field.text

/-- A variable that takes the place of a list must not be a table. -/
def checkList (name : String) : Sh Unit := do
  checkName name
  if (← Act.read).isTable name then fail (name ++ ": not an indexed array")

/-- Set variables to values. -/
def assignAll : List (String × String) → Sh Unit
  | [] => pure ()
  | (name, value) :: rest => do
    checkPlace name
    assignPlace name value
    assignAll rest

/-- Read a line into variables, or into a list. -/
def extendedRead : Builtin := fun args => do
  let (opts, names) ← options "ersa:d:i:n:N:p:t:u:" args
  match value? 't' opts with
  | some t =>
    if (Decimal.read t.toList).any (fun r => r.2.isEmpty && !r.1.negative) then pure ()
    else fail (t ++ ": invalid timeout specification")
  | none => pure ()
  let exact := (value? 'N' opts).isSome
  let bound ← countOr lineLimit "invalid number" ((value? 'N' opts).or (value? 'n' opts))
  let stream ← streamNamed (value? 'u' opts)
  (names.take 1).forM checkPlace
  match value? 'a' opts with
  | some name => checkList name
  | none => pure ()
  if value? 't' opts == some "0" then pure 0
  else
    let form : LineForm :=
      { stream, raw := given 'r' opts, stop := if exact then none else some (stopOf (value? 'd' opts)) }
    let (cs, status) ← readLine form bound []
    let separators := (← Act.read).separators
    let whole := String.ofList (cs.map (·.1))
    match value? 'a' opts with
    | some name =>
      let words := wordsOf separators cs
      changeValue name fun _ => .list ((List.range words.length).zip words)
    | none =>
      if names.isEmpty then assign "REPLY" whole
      else if exact then assignAll ((names.headD "", whole) :: names.tail.map fun n => (n, ""))
      else assignAll (spread separators names (cs.dropWhile (isGap separators true)))
    pure status

/-- Read a line into variables. -/
def read : Builtin := fun args => do
  if (← Act.read).extended then extendedRead args
  else
    let (opts, names) ← options "p:r" args
    if names.isEmpty then fail "arg count"
    else
      names.forM checkName
      let (cs, status) ← readLine { raw := given 'r' opts } lineLimit []
      let separators := (← Act.read).separators
      let line := cs.dropWhile (isGap separators true)
      (spread separators names line).forM fun (name, value) => assign name value
      pure status

/-! ## Lists of lines -/

/-- Read lines, at most so many, each with the character at its end unless that is left out. Something
is done with each of them, which is told how many there were before. -/
def eachLine (form : LineForm) (trims : Bool) (use : Nat → String → Sh Unit) :
    Nat → Nat → Sh Unit
  | 0, _ => pure ()
  | n + 1, before => do
    let (cs, status) ← readLine form lineLimit []
    if status ≠ 0 ∧ cs.isEmpty then pure ()
    else
      let ending := if trims || status != 0 then [] else form.stop.toList
      use before (String.ofList (cs.map (·.1) ++ ending))
      eachLine form trims use n (before + 1)

/-- Read the lines of the input into a list. A text may be run as a command from time to time, with the
number and the text of the line that is next. -/
def mapfile (run : String → Sh Unit) : Builtin := fun args => do
  let (opts, names) ← options "d:n:O:s:tu:C:c:" args
  let stream ← streamNamed (value? 'u' opts)
  let most ← countOr 0 "invalid line count" (value? 'n' opts)
  let first ← countOr 0 "invalid array origin" (value? 'O' opts)
  let skipped ← countOr 0 "invalid line count" (value? 's' opts)
  let quantum ← countOr 5000 "invalid callback quantum" (value? 'c' opts)
  if quantum = 0 then fail "0: invalid callback quantum"
  let name := names.headD "MAPFILE"
  checkList name
  let form : LineForm := { stream, raw := true, stop := some (stopOf (value? 'd' opts)) }
  if (value? 'O' opts).isNone then changeValue name fun _ => .list []
  eachLine form true (fun _ _ => pure ()) skipped 0
  let store (before : Nat) (line : String) : Sh Unit := do
    match value? 'C' opts with
    | some command =>
      if (before + 1) % quantum = 0 then
        run (command ++ " " ++ toString (first + before) ++ " " ++ Quoting.single line)
    | none => pure ()
    changeValue name fun old => withItem old (toString (first + before)) line
  eachLine form (given 't' opts) store (if most = 0 then lineLimit else most) 0
  pure 0

end Builtin

end AslBuild.Shell
