import AslBuild.Shell.Builtin.Variables
set_option autoImplicit false

/-!
# Declarations

In the language with extensions, variables are declared with marks, which say what becomes of the
values that they are set to. A declaration in a function is for the function alone.

## Main definitions

* `AslBuild.Shell.Builtin.Marks` — the marks that a declaration gives and takes.
* `AslBuild.Shell.Builtin.declare`, `AslBuild.Shell.Builtin.local_` — declare variables.
-/

namespace AslBuild.Shell

open FileSystem Host Text

namespace Builtin

/-! ## Marks -/

/-- The marks that a declaration gives and takes, by their letters. -/
structure Marks where
  /-- The letters behind minus signs. -/
  given : List Char := []
  /-- The letters behind plus signs. -/
  taken : List Char := []

/-- Whether a mark is given. -/
def Marks.has (m : Marks) (c : Char) : Bool := m.given.contains c

/-- The letters of the marks that there are. -/
def markLetters : List Char := "aAcfFgiIlnprtux".toList

/-- The marks in front of some arguments, and what follows them. -/
def readMarks : List String → Sh (Marks × List String)
  | [] => pure ({}, [])
  | a :: args =>
    match a.toList with
    | ['-', '-'] => pure ({}, args)
    | sign :: c :: cs =>
      if sign = '-' ∨ sign = '+' then
        match (c :: cs).find? fun c => !markLetters.contains c with
        | some unknown => unknownOption sign unknown
        | none => do
          let (m, rest) ← readMarks args
          pure (if sign = '-' then { m with given := c :: cs ++ m.given }
            else { m with taken := c :: cs ++ m.taken }, rest)
      else pure ({}, a :: args)
    | _ => pure ({}, a :: args)

/-- The style that marks ask for, of a variable that has another one. -/
def Marks.style (m : Marks) (old : Style) : Style :=
  let wanted (c : Char) : Option Style :=
    match c with
    | 'i' => some .integer
    | 'u' => some .upper
    | 'l' => some .lower
    | 'c' => some .capital
    | _ => none
  match m.given.findSome? wanted with
  | some style => style
  | none => if m.taken.any fun c => wanted c == some old then .plain else old

/-- Whether a variable has all the marks that are asked for. -/
def Marks.fits (m : Marks) (v : Variable) : Bool :=
  let letters := (marksOf v).toList
  (m.given.filter (· != 'p')).all letters.contains

/-! ## Lists of declarations -/

/-- Show how variables were declared. -/
def showDeclared (m : Marks) (names : List String) : Sh Nat := do
  let s ← Act.read
  let all := allVariables s
  if names.isEmpty then
    print (String.join ((all.filter fun v => m.fits v.2).map fun v =>
      declaration v.1 v.2 ++ "\n"))
    pure 0
  else
    names.foldlM (fun status name => do
      match all.lookup name with
      | some v =>
        print (declaration name v ++ "\n")
        pure status
      | none =>
        complain (name ++ ": not found")
        pure 1) 0

/-- Show functions, or their names. -/
def showFunctions (shown : String → Command → String) (onlyNames : Bool) (names : List String) :
    Sh Nat := do
  let s ← Act.read
  if names.isEmpty then
    print (String.join ((sorted s.functions).map fun f =>
      if onlyNames then "declare -f " ++ f.1 ++ "\n" else shown f.1 f.2 ++ "\n"))
    pure 0
  else
    names.foldlM (fun status name => do
      match s.functions.lookup name with
      | some body =>
        print ((if onlyNames then name else shown name body) ++ "\n")
        pure status
      | none => pure 1) 0

/-! ## Declaring -/

/-- The value of a variable that becomes a list or a table, and whether it has none yet. -/
def asItems (m : Marks) (name : String) (v : Variable) : Sh Variable := do
  match m.has 'A', m.has 'a', v.value with
  | true, _, some (.list _) => fail (name ++ ": cannot convert indexed to associative array")
  | _, true, some (.table _) => fail (name ++ ": cannot convert associative to indexed array")
  | true, _, some (.text t) => pure { v with value := some (.table [("0", t)]) }
  | false, true, some (.text t) => pure { v with value := some (.list [(0, t)]) }
  | true, _, none => pure { v with value := some (.table []), bare := true }
  | false, true, none => pure { v with value := some (.list []), bare := true }
  | _, _, _ => pure v

/-- A variable is declared for the function that runs. -/
def declareInside (name : String) : Sh Unit := do
  let s ← Act.read
  let isNew := !(s.scopes.head?.any fun scope => scope.any (·.1 == name))
  if ((s.bindingAs? name).map (·.locked)).getD false then fail (name ++ ": readonly variable")
  saveOutside name
  if isNew then Act.update fun s => s.putAs name none

/-- Set a variable, or an item of it, to the value in a declaration. -/
def setDeclared (name : String) (subscript : Option String) (appends : Bool) (value : String) :
    Sh Unit := do
  let s ← Act.read
  let isNumber := ((s.binding? name).map (·.style)) == some .integer
  let old ← match subscript with
    | none => pure (s.get name)
    | some key => do pure ((← item? name key).getD "")
  let value ← if isNumber then do
      let before ← if appends then calculate old else pure 0
      pure (toString (before + (← calculate value)))
    else pure (if appends then old ++ value else value)
  match subscript with
  | none => assign name value
  | some key => do
    let key ← keyToSet name key
    changeValue name fun old => withItem old key value

/-- Declare a variable. -/
def declareOne (m : Marks) (a : String) : Sh Unit := do
  let (left, value) := splitAssignment a
  let appends := value.isSome && left.endsWith "+"
  let left := if appends then (left.dropEnd 1).toString else left
  let (name, subscript) := splitPlace left
  checkNameIn a name
  if !(← Act.read).calls.isEmpty && !m.has 'g' then declareInside name
  let s ← Act.read
  if m.has 'n' then
    Act.update fun s =>
      s.putAs name (some { value := value.map .text, refers := true })
  else
    let old := (s.binding? name).getD { value := none }
    if old.locked && (value.isSome || m.taken.contains 'r') then
      fail (name ++ ": readonly variable")
    if m.taken.contains 'a' || m.taken.contains 'A' then
      match old.value with
      | some (.list _) | some (.table _) =>
        fail (name ++ ": cannot destroy array variables in this way")
      | _ => pure ()
    let v ← asItems m name old
    Act.update fun s => s.put name (some { v with
      style := m.style v.style
      exported := (v.exported || m.has 'x') && !m.taken.contains 'x' })
    match value with
    | some value => setDeclared name subscript appends value
    | none => pure ()
    if m.has 'r' then
      Act.update fun s =>
        s.put name (some { (s.binding? name).getD { value := none } with locked := true })

/-- The names of a function are declared, or shown. -/
def declareWith (shown : String → Command → String) (m : Marks) (args : List String) : Sh Nat :=
  if m.has 'F' || m.has 'f' then showFunctions shown (m.has 'F') args
  else if m.has 'p' || args.isEmpty then showDeclared m args
  else eachArgument (declareOne m) args

/-- Declare variables, or show them. -/
def declare (shown : String → Command → String) : Builtin := fun args => do
  let (m, rest) ← readMarks args
  declareWith shown m rest

/-- The variables that a function has for itself. -/
def showLocal : Sh Nat := do
  let s ← Act.read
  let names := ((s.scopes.head?).getD []).map (·.1)
  let mine := sorted (names.filterMap fun name => (s.bindingAs? name).map fun v => (name, v))
  print (String.join (mine.map fun v => declaration v.1 v.2 ++ "\n"))
  pure 0

/-- Let a function have variables for itself. -/
def local_ : Builtin := fun args => do
  let s ← Act.read
  if s.extended then
    if s.calls.isEmpty then
      complain "can only be used in a function"
      pure 1
    else
      let (m, rest) ← readMarks args
      if rest.isEmpty then showLocal else eachArgument (declareOne m) rest
  else if s.scopes.isEmpty then fail "not in a function"
  else
    args.forM fun a => do
      let (name, value) := splitAssignment a
      if name = "-" then pure ()
      else
        checkName name
        saveOutside name
        match value with
        | some v => assign name v
        | none => pure ()
    pure 0

end Builtin

end AslBuild.Shell
