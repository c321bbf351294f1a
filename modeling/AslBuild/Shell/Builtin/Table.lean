import AslBuild.Host.Search
import AslBuild.Shell.Builtin.Arguments
import AslBuild.Shell.Builtin.Declaring
import AslBuild.Shell.Builtin.Directories
import AslBuild.Shell.Builtin.Naming
import AslBuild.Shell.Builtin.Places
import AslBuild.Shell.Builtin.Printing
import AslBuild.Shell.Builtin.Reading
import AslBuild.Shell.Builtin.Signals
import AslBuild.Shell.Builtin.Switches
import AslBuild.Shell.Listing
set_option autoImplicit false

/-!
# The table of commands

## Main definitions

* `AslBuild.Shell.Builtin.plain?` — the command of a name.
* `AslBuild.Shell.Builtin.isBuiltin` — whether a name is that of a command of the shell itself.
* `AslBuild.Shell.Builtin.enable` — let commands of the shell itself be found or not.
-/

namespace AslBuild.Shell

open FileSystem Host Text

namespace Builtin

/-! ## Small commands -/

/-- Nothing but a status. -/
def constant (n : Nat) : Builtin := fun _ => pure n

/-- Nothing but a message. -/
def refusing (message : String) : Builtin := fun _ => fail message

/-- What a limit is. -/
def ulimit : Builtin := fun args => do
  if args.all fun a => a.startsWith "-" then print "unlimited\n"
  pure 0

/-- The time that processes took. -/
def times : Builtin := fun _ => do
  print (if (← Act.read).extended then "0m0.000s 0m0.000s\n0m0.000s 0m0.000s\n"
    else "0m0.00s 0m0.00s\n0m0.00s 0m0.00s\n")
  pure 0

/-- Calculate. -/
def let_ : Builtin := fun args => do
  if args.isEmpty then fail "expression expected"
  else
    let n ← args.foldlM (fun _ a => calculate a) 0
    pure (if n == 0 then 1 else 0)

/-- Forget jobs. -/
def disown : Builtin := fun args => do
  match args.find? fun a => a.startsWith "%" with
  | some a =>
    let _ ← job a
    pure 0
  | none =>
    if (← Act.read).jobs.isEmpty then
      complain "current: no such job"
      pure 1
    else pure 0

/-- Where the functions were called that are around. -/
def caller : Builtin := fun args => do
  let s ← Act.read
  let lines := s.calls.map fun c => toString c.line
  let names := (s.calls.map (·.name)).tail ++ ["main"]
  match args with
  | [] =>
    print ((lines.headD "0") ++ " " ++ (if s.calls.isEmpty then "NULL" else s.name) ++ "\n")
    pure 0
  | a :: _ =>
    match a.toNat?.filter fun _ => a.toList.all Char.isDigit with
    | none => misused (a ++ ": invalid number") ""
    | some n =>
      match lines[n]?, names[n]? with
      | some line, some name =>
        print (line ++ " " ++ name ++ " " ++ s.name ++ "\n")
        pure 0
      | _, _ => pure 1

/-- How commands of the shell itself are used. -/
def help : Builtin := fun args => do
  let (_, names) ← options "dms" args
  names.foldlM (fun status name => do
    match usages.lookup name with
    | some text =>
      print (name ++ ": " ++ name ++ " " ++ text ++ "\n")
      pure status
    | none =>
      complain ("no help topics match \x60" ++ name ++ "'.  Try \x60help help' or \x60man -k " ++
        name ++ "' or \x60info " ++ name ++ "'.")
      pure 1) 0

/-! ## Tables -/

/-- The commands that need more than their arguments and the state of the shell. -/
def controlling : List String :=
  [".", "break", "command", "continue", "eval", "exec", "exit", "return", "type", "wait"]

/-- The same, of a shell with extensions. -/
def controllingExtended : List String := ["source", "builtin", "mapfile", "readarray"]

/-- The commands that need nothing to be known of the others. -/
def common : List (String × Builtin) :=
  [(":", constant 0), ("true", constant 0), ("false", constant 1), ("echo", echo),
    ("printf", printf), ("test", test), ("[", bracket), ("export", export_),
    ("readonly", readonly), ("unset", unset), ("local", local_), ("set", set listedFunction),
    ("shift", shift), ("getopts", getopts), ("read", read), ("cd", cd), ("pwd", pwd),
    ("umask", umask), ("trap", trap), ("kill", kill), ("alias", alias_), ("unalias", unalias),
    ("ulimit", ulimit), ("times", times), ("jobs", jobs), ("bg", resume), ("fg", resume)]

/-- The commands of a shell without extensions. -/
def shellOnly : List (String × Builtin) := [("chdir", cd)]

/-- The commands of a shell with extensions. -/
def extendedOnly : List (String × Builtin) :=
  [("declare", declare listedFunction), ("typeset", declare listedFunction), ("let", let_),
    ("shopt", shopt), ("disown", disown),
    ("suspend", refusing "cannot suspend: no job control"),
    ("logout", refusing "not login shell: use \x60exit'"), ("caller", caller), ("dirs", dirs),
    ("pushd", pushd), ("popd", popd), ("help", help), ("bind", constant 0),
    ("compgen", constant 1), ("complete", constant 0), ("compopt", constant 1),
    ("fc", constant 0), ("history", constant 0)]

/-- The names of all commands, but for those below. -/
def basicNames (extended : Bool) : List String :=
  common.map (·.1) ++ controlling ++
    if extended then extendedOnly.map (·.1) ++ controllingExtended else shellOnly.map (·.1)

/-- The names of all commands of the shell itself. -/
def ownCommands (extended : Bool) : List String :=
  (basicNames extended ++ ["hash"] ++ if extended then ["enable"] else []).mergeSort
    fun a b => a ≤ b

/-- Let commands of the shell itself be found or not, or list them. -/
def enable : Builtin := fun args => do
  let (opts, names) ← options "anpsdf:" args
  let s ← Act.read
  if names.isEmpty then
    let line (name : String) : String :=
      (if s.disabled.contains name then "enable -n " else "enable ") ++ name ++ "\n"
    let wanted := (ownCommands true).filter fun name =>
      given 'a' opts || s.disabled.contains name == given 'n' opts
    print (String.join (wanted.map line))
    pure 0
  else
    names.foldlM (fun status name => do
      if (ownCommands true).contains name then
        Act.update fun s =>
          let others := s.disabled.filter (· != name)
          { s with disabled := if given 'n' opts then name :: others else others }
        pure status
      else
        complain (name ++ ": not a shell builtin")
        pure 1) 0

/-- The command of a name. -/
def plain? (extended : Bool) (name : String) : Option Builtin :=
  match name with
  | "hash" => some (hash (ownCommands extended).contains)
  | "enable" => if extended then some enable else none
  | _ => (common.lookup name).or ((if extended then extendedOnly else shellOnly).lookup name)

/-- Whether a name is that of a command of the shell itself. -/
def isBuiltin (extended : Bool) (name : String) : Bool :=
  (plain? extended name).isSome || controlling.contains name ||
    (extended && controllingExtended.contains name)

end Builtin

end AslBuild.Shell
