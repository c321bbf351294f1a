import AslBuild.Shell.Builtin.Variables
set_option autoImplicit false

/-!
# Options of the shell

## Main definitions

* `AslBuild.Shell.Builtin.set` — set options and arguments.
* `AslBuild.Shell.Builtin.shopt` — set the options that the language with extensions has besides.
-/

namespace AslBuild.Shell

open FileSystem Host Text

namespace Builtin

/-! ## Setting options -/

/-- Set an option or not. -/
def setOption (name : String) (on : Bool) : Sh Unit := Act.update fun s =>
  let others := s.options.filter (· != name)
  { s with options := if on then name :: others else others }

/-- Set an option by its name. -/
def setNamed (name : String) (on : Bool) : Sh Unit := do
  let s ← Act.read
  if s.optionList.contains name then setOption name on
  else if s.extended then failWith 2 (name ++ ": invalid option name")
  else fail ("Illegal option " ++ (if on then "-" else "+") ++ "o " ++ name)

/-- Set an option by its letter. There is no terminal from which jobs could be controlled. -/
def setLetter (c : Char) (on : Bool) : Sh Unit := do
  match (← Act.read).lettered.lookup c with
  | some "monitor" =>
    if !on || (← Act.read).extended then setOption "monitor" on
    else complain "can't access tty; job control turned off"
  | some name => setOption name on
  | none =>
    let sign := if on then '-' else '+'
    misused (String.ofList [sign, c] ++ ": invalid option")
      ("Illegal option " ++ String.ofList [sign, c])

/-! ## Lists of options -/

/-- The state of an option in a table. -/
def optionLine (width : Nat) (name : String) (on : Bool) : String :=
  name ++ String.ofList (List.replicate (width - name.length) ' ') ++ (if on then "on" else "off") ++
    "\n"

/-- The state of an option in a table of the language with extensions. -/
def tabbedLine (name : String) (on : Bool) : String :=
  name ++ String.ofList (List.replicate (15 - name.length) ' ') ++ "\t" ++
    (if on then "on" else "off") ++ "\n"

/-- The state of an option as a command that sets it. -/
def setLine (name : String) (on : Bool) : String :=
  "set " ++ (if on then "-o " else "+o ") ++ name ++ "\n"

/-- The same of an option that has a command of its own. -/
def shoptLine (name : String) (on : Bool) : String :=
  "shopt " ++ (if on then "-s " else "-u ") ++ name ++ "\n"

/-- The options and their states, in a table or as commands. -/
def listOptions (table : Bool) : Sh Unit := do
  let s ← Act.read
  let line := if !table then setLine else if s.extended then tabbedLine else optionLine 16
  print ((if table && !s.extended then "Current option settings\n" else "") ++
    String.join (s.optionList.map fun n => line n (s.has n)))

/-! ## Options among arguments -/

/-- Set options by the letters of an argument; `o` takes a name from the arguments that follow. -/
def setLetters (on : Bool) : List Char → List String → Sh (List String)
  | [], args => pure args
  | 'o' :: cs, args => do
    match args with
    | [] =>
      listOptions on
      setLetters on cs []
    | name :: args =>
      setNamed name on
      setLetters on cs args
  | c :: cs, args => do
    setLetter c on
    setLetters on cs args

/-- Set the options in front of some arguments. What follows them is given, and whether that is to
become the arguments of the shell even if it is nothing. At most so many are read. -/
def setOptions : Nat → List String → Sh (List String × Bool)
  | 0, args => pure (args, false)
  | _, [] => pure ([], false)
  | n + 1, a :: args =>
    match a.toList with
    | ['-'] => do
      setOption "xtrace" false
      setOption "verbose" false
      pure (args, false)
    | ['-', '-'] => pure (args, true)
    | '-' :: cs => do setOptions n (← setLetters true cs args)
    | '+' :: cs => do setOptions n (← setLetters false cs args)
    | _ => pure (a :: args, false)

/-- A text as it is listed. -/
def listed (s : String) : String :=
  if s.toList.any Quoting.isHidden then Quoting.escaped s else Quoting.sparing s

/-- A variable with its value, as it is listed. -/
def valueLine (extended : Bool) (v : String × Variable) : String :=
  match extended, v.2.value with
  | _, none => ""
  | false, some value => ((value.text?).map fun t => v.1 ++ "=" ++ Quoting.mixed t ++ "\n").getD ""
  | true, some (.text t) => v.1 ++ "=" ++ listed t ++ "\n"
  | true, some value => v.1 ++ "=" ++ itemsText value ++ "\n"

/-- Set options and arguments, or list all variables and functions. -/
def set (shown : String → Command → String) : Builtin := fun args => do
  let s ← Act.read
  if args.isEmpty then
    print (String.join ((sorted s.bindings).map (valueLine s.extended)))
    if s.extended then
      print (String.join ((sorted s.functions).map fun f => shown f.1 f.2 ++ "\n"))
  else
    let (rest, replace) ← setOptions (args.length + 1) args
    if replace || !rest.isEmpty then Act.update fun s => { s with arguments := rest }
  pure 0

/-! ## Options with a command of their own -/

/-- A family of options: their names, what is said of a name that is none of them, and how their states
are shown. -/
structure OptionFamily where
  /-- The names. -/
  names : List String
  /-- What is said of another name. -/
  refusal : String
  /-- The state of one of them as a command that sets it. -/
  line : String → Bool → String

/-- Set some options of a family, or show them. -/
def applyFamily (family : OptionFamily) (opts : List (Char × String)) (names : List String) :
    Sh Nat := do
  let s ← Act.read
  let line := if given 'p' opts then family.line else tabbedLine
  let sets := given 's' opts || given 'u' opts
  if names.isEmpty then
    let wanted := family.names.filter fun n => !sets || s.has n == given 's' opts
    if !given 'q' opts then print (String.join (wanted.map fun n => line n (s.has n)))
    pure 0
  else
    names.foldlM (fun status name => do
      if !family.names.contains name then
        complain (name ++ family.refusal)
        pure 1
      else if sets then
        setOption name (given 's' opts)
        pure status
      else
        let on := (← Act.read).has name
        if !given 'q' opts then print (line name on)
        pure (if on then status else 1)) 0

/-- Set or show options of the language with extensions. -/
def shopt : Builtin := fun args => do
  let (opts, names) ← options "supqo" args
  if given 's' opts && given 'u' opts then
    fail "cannot set and unset shell options simultaneously"
  else if given 'o' opts then
    let family : OptionFamily := ⟨(← Act.read).optionList, ": invalid option name", setLine⟩
    applyFamily family opts names
  else applyFamily ⟨shellOptions, ": invalid shell option name", shoptLine⟩ opts names

end Builtin

end AslBuild.Shell
