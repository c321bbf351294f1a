import AslBuild.Shell.Builtin.Basic
set_option autoImplicit false

/-!
# Commands for variables

## Main definitions

* `AslBuild.Shell.Builtin.allVariables` — the variables in the order in which they are listed.
* `AslBuild.Shell.Builtin.export_`, `AslBuild.Shell.Builtin.readonly`,
  `AslBuild.Shell.Builtin.unset` — marks of variables, and their end.
-/

namespace AslBuild.Shell

open FileSystem Host Text

namespace Builtin

/-- The name and the value of an argument that is an assignment. -/
def splitAssignment (a : String) : String × Option String :=
  let cs := a.toList
  let name := cs.takeWhile (· != '=')
  (String.ofList name,
    if name.length < cs.length then some (String.ofList (cs.drop (name.length + 1))) else none)

/-- A text in quotes. -/
def quoted (extended : Bool) (s : String) : String :=
  if extended then Quoting.single s else Quoting.mixed s

/-- The variables in the order of their names. -/
def sorted {α : Type} (xs : List (String × α)) : List (String × α) :=
  xs.mergeSort fun a b => a.1 ≤ b.1

/-- A name has to be the name of a variable. The argument is named that it stands in. -/
def checkNameIn (argument name : String) : Sh Unit := do
  if isName name.toList then pure ()
  else if (← Act.read).extended then fail ("\x60" ++ argument ++ "': not a valid identifier")
  else fail (name ++ ": bad variable name")

/-- A name has to be the name of a variable. -/
def checkName (name : String) : Sh Unit := checkNameIn name name

/-- The name of a variable in a text, and the subscript behind it. -/
def splitPlace (place : String) : String × Option String :=
  let name := place.toList.takeWhile (· != '[')
  (String.ofList name, if name.length < place.length
    then some (String.ofList ((place.toList.drop (name.length + 1)).dropLast)) else none)

/-- A text has to name a variable or an item of one. -/
def checkPlace (place : String) : Sh Unit := do
  let (name, subscript) := splitPlace place
  match subscript with
  | none => checkNameIn place name
  | some key => checkNameIn place (if place.endsWith "]" && !key.isEmpty then name else "")

/-- Set a variable or an item of one. -/
def assignPlace (place value : String) : Sh Unit := do
  let (name, subscript) := splitPlace place
  match subscript with
  | none => assign name value
  | some key => do
    let s ← Act.read
    let style := ((s.binding? name).map (·.style)).getD .plain
    let key ← if s.isTable name then pure key else keyToSet name (toString (← calculate key))
    changeValue name fun old => withItem old key (style.shape value)

/-- Do something with each argument. In the language with extensions, what goes wrong with one is
nothing to the others. The status is given. -/
def eachArgument (f : String → Sh Unit) (args : List String) : Sh Nat := do
  if (← Act.read).extended then
    args.foldlM (fun status a => do
      match ← (f a).attempt with
      | .ok () => pure status
      | .error .failed => pure 1
      | .error flow => Act.fail flow) 0
  else
    args.forM f
    pure 0

/-! ## Lists -/

/-- All variables, those among them that the language with extensions keeps itself. -/
def allVariables (s : State) : List (String × Variable) :=
  let own := State.ownNames.filterMap fun name =>
    match s.ownItems? name, s.ownText? name with
    | some items, _ =>
      let v : Variable := { value := some (.list ((List.range items.length).zip items)) }
      some (name, { v with locked := name == "BASH_VERSINFO" })
    | none, some text =>
      let v : Variable := { value := some (.text text) }
      some (name, { v with locked := ["BASHOPTS", "SHELLOPTS"].contains name })
    | none, none => none
  sorted (if s.extended then own ++ s.bindings else s.bindings)

/-! ## Marks -/

/-- List the variables with a mark. -/
def listMarked (word : String) (isMarked : Variable → Bool) : Sh Unit := do
  let s ← Act.read
  let shown (v : String × Variable) : String :=
    if s.extended then declaration v.1 v.2 ++ "\n"
    else match v.2.value.bind Value.text? with
      | some t => word ++ " " ++ v.1 ++ "=" ++ Quoting.mixed t ++ "\n"
      | none => word ++ " " ++ v.1 ++ "\n"
  print (String.join (((allVariables s).filter fun v => isMarked v.2).map shown))

/-- List the variables with a mark, or set it. -/
def marking (word : String) (isMarked : Variable → Bool) (mark : String → Bool → Sh Unit) :
    Builtin := fun args => do
  let s ← Act.read
  let (opts, rest) ← options (if !s.extended then "p" else if word == "export" then "fnp"
    else "aAfp") args
  if rest.isEmpty then
    let isList (v : Variable) : Bool := match v.value with
      | some (.list _) => true
      | _ => false
    listMarked word fun v => isMarked v && (!given 'a' opts || isList v)
    pure 0
  else if given 'f' opts then
    rest.foldlM (fun status name => do
      if (← Act.read).functions.any (·.1 == name) then pure status
      else
        complain (name ++ ": not a function")
        pure 1) 0
  else
    eachArgument (fun a => do
      let (name, value) := splitAssignment a
      checkNameIn a name
      match value with
      | some v => assign name v
      | none => pure ()
      mark name !(given 'n' opts)) rest

/-- Export variables. -/
def export_ : Builtin := marking "export" (·.exported) markExported

/-- Let nobody set a variable. -/
def lock (name : String) : Sh Unit := Act.update fun s =>
  s.put name (some { (s.binding? name).getD { value := none } with locked := true })

/-- Let nobody set variables. -/
def readonly : Builtin := marking "readonly" (·.locked) fun name _ => lock name

/-- Forget an item of a list or a table. -/
def unsetItem (name subscript : String) : Sh Unit := do
  match (← Act.read).keyOf? name subscript with
  | none => fail ("[" ++ subscript ++ "]: bad array subscript")
  | some key =>
    changeValue name fun old =>
      match old with
      | some (.list items) => .list (items.filter fun i => toString i.1 != key)
      | some (.table items) => .table (items.filter fun i => i.1 != key)
      | _ => .text ""

/-- Forget variables or functions. -/
def unset : Builtin := fun args => do
  let extended := (← Act.read).extended
  let (opts, names) ← options (if extended then "vfn" else "vf") args
  eachArgument (fun name => do
    let s ← Act.read
    let isFunction := s.functions.any (·.1 == name)
    let isVariable := (s.binding? name).isSome
    let (owner, subscript) := splitPlace name
    if given 'f' opts || (!given 'v' opts && isFunction && (extended && !isVariable)) then
      Act.update fun s => { s with functions := s.functions.filter fun f => f.1 != name }
    else if given 'n' opts then Act.update fun s => s.putAs name none
    else match extended, subscript with
      | true, some key => do
        let key ← if s.isTable owner then pure key else do pure (toString (← calculate key))
        unsetItem owner key
      | true, none => if isName name.toList then unsetVariable name
      | false, _ => do
        checkName name
        unsetVariable name) names

end Builtin

end AslBuild.Shell
