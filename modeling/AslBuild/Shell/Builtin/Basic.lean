import AslBuild.Shell.Expansion
import AslBuild.Shell.Test
set_option autoImplicit false

/-!
# Commands of the shell itself

The commands that need nothing but their arguments and the state of the shell. Each of them gives a
status.

## Main definitions

* `AslBuild.Shell.Builtin` — a command of the shell itself.
* `AslBuild.Shell.Builtin.usage?` — how a command is used.
* `AslBuild.Shell.Builtin.options` — the options in front of its arguments.
-/

namespace AslBuild.Shell

open FileSystem Host Text

/-- A command of the shell itself: a step that gives a status. -/
abbrev Builtin : Type := List String → Sh Nat

namespace Builtin

/-! ## Usage -/

/-- The arguments of commands of the shell itself, as the language with extensions puts them. -/
def usages : List (String × String) :=
  [("alias", "[-p] [name[=value] ... ]"),
    ("bg", "[job_spec ...]"),
    ("break", "[n]"),
    ("builtin", "[shell-builtin [arg ...]]"),
    ("caller", "[expr]"),
    ("cd", "[-L|[-P [-e]] [-@]] [dir]"),
    ("command", "[-pVv] command [arg ...]"),
    ("continue", "[n]"),
    ("declare", "[-aAfFgiIlnrtux] [name[=value] ...] or declare -p [-aAfFilnrtux] [name ...]"),
    ("dirs", "[-clpv] [+N] [-N]"),
    ("disown", "[-h] [-ar] [jobspec ... | pid ...]"),
    ("enable", "[-a] [-dnps] [-f filename] [name ...]"),
    ("eval", "[arg ...]"),
    ("exec", "[-cl] [-a name] [command [argument ...]] [redirection ...]"),
    ("exit", "[n]"),
    ("export", "[-fn] [name[=value] ...] or export -p"),
    ("fg", "[job_spec]"),
    ("getopts", "optstring name [arg ...]"),
    ("hash", "[-lr] [-p pathname] [-dt] [name ...]"),
    ("help", "[-dms] [pattern ...]"),
    ("jobs", "[-lnprs] [jobspec ...] or jobs -x command [args]"),
    ("kill", "[-s sigspec | -n signum | -sigspec] pid | jobspec ... or kill -l [sigspec]"),
    ("let", "arg [arg ...]"),
    ("local", "[option] name[=value] ..."),
    ("mapfile",
      "[-d delim] [-n count] [-O origin] [-s count] [-t] [-u fd] [-C callback] [-c " ++
      "quantum] [array]"),
    ("popd", "[-n] [+N | -N]"),
    ("printf", "[-v var] format [arguments]"),
    ("pushd", "[-n] [+N | -N | dir]"),
    ("pwd", "[-LP]"),
    ("read",
      "[-ers] [-a array] [-d delim] [-i text] [-n nchars] [-N nchars] [-p prompt] [-t " ++
      "timeout] [-u fd] [name ...]"),
    ("readarray",
      "[-d delim] [-n count] [-O origin] [-s count] [-t] [-u fd] [-C callback] [-c " ++
      "quantum] [array]"),
    ("readonly", "[-aAf] [name[=value] ...] or readonly -p"),
    ("return", "[n]"),
    ("set", "[-abefhkmnptuvxBCEHPT] [-o option-name] [--] [-] [arg ...]"),
    ("shift", "[n]"),
    ("shopt", "[-pqsu] [-o] [optname ...]"),
    ("suspend", "[-f]"),
    ("times", ""),
    ("trap", "[-lp] [[arg] signal_spec ...]"),
    ("type", "[-afptP] name [name ...]"),
    ("typeset", "[-aAfFgiIlnrtux] name[=value] ... or typeset -p [-aAfFilnrtux] [name ...]"),
    ("ulimit", "[-SHabcdefiklmnpqrstuvxPRT] [limit]"),
    ("umask", "[-p] [-S] [mode]"),
    ("unalias", "[-a] name [name ...]"),
    ("unset", "[-f] [-v] [-n] [name ...]"),
    ("wait", "[-fn] [-p var] [id ...]")]

/-- How a command is used. -/
def usage? (name : String) : Option String :=
  (usages.lookup name).map fun arguments => name ++ ": usage: " ++ name ++ " " ++ arguments

/-! ## Options -/

/-- Say how the command is used. -/
def sayUsage : Sh Unit := do
  match (← Act.read).command.bind usage? with
  | some text => onMachine fun p => printTo p 2 (text ++ "\n")
  | none => pure ()

/-- Arguments make no sense. In the language with extensions, it is said how the command is used. -/
def misused {α : Type} (message plainMessage : String) : Sh α := do
  let s ← Act.read
  if s.extended then
    complain message
    sayUsage
    setStatus 2
    Act.fail .failed
  else fail plainMessage

/-- An option is not known. -/
def unknownOption {α : Type} (sign c : Char) : Sh α :=
  misused (String.ofList [sign, c] ++ ": invalid option")
    ("Illegal option " ++ String.ofList [sign, c])

/-- An option has no argument. -/
def bareOption {α : Type} (c : Char) : Sh α :=
  misused (String.ofList ['-', c] ++ ": option requires an argument")
    ("No arg for " ++ String.ofList ['-', c] ++ " option")

/-- The letters of the options in front of some arguments, each with its argument, and what follows
them. In `allowed`, a colon follows the letters that take an argument. At most so many are read. -/
def optionsUpTo (allowed : List Char) : Nat → List String →
    Sh (List (Char × String) × List String)
  | 0, args => pure ([], args)
  | _, [] => pure ([], [])
  | n + 1, a :: args =>
    match a.toList with
    | '-' :: c :: cs =>
      if c = '-' ∧ cs.isEmpty then pure ([], args)
      else
        match allowed.dropWhile (· != c) with
        | _ :: ':' :: _ =>
          if c = ':' then unknownOption '-' c
          else
            match cs, args with
            | [], [] => bareOption c
            | [], value :: args => do
              let (more, rest) ← optionsUpTo allowed n args
              pure ((c, value) :: more, rest)
            | cs, args => do
              let (more, rest) ← optionsUpTo allowed n args
              pure ((c, String.ofList cs) :: more, rest)
        | _ :: _ => do
          let next := if cs.isEmpty then args else String.ofList ('-' :: cs) :: args
          let (more, rest) ← optionsUpTo allowed n next
          pure ((c, "") :: more, rest)
        | [] => unknownOption '-' c
    | _ => pure ([], a :: args)

/-- The options in front of some arguments, and what follows them. -/
def options (allowed : String) (args : List String) : Sh (List (Char × String) × List String) :=
  optionsUpTo allowed.toList ((args.map String.length).foldl (· + ·) 0 + args.length + 1) args

/-- Whether an option is among some. -/
def given (c : Char) (opts : List (Char × String)) : Bool := opts.any fun o => o.1 == c

/-- The last value of an option. -/
def value? (c : Char) (opts : List (Char × String)) : Option String := opts.reverse.lookup c

/-- A number without a sign. -/
def number (text : String) : Sh Nat := do
  match text.toNat?.filter fun _ => text.toList.all Char.isDigit with
  | some n => pure n
  | none =>
    if (← Act.read).extended then fail (text ++ ": numeric argument required")
    else fail ("Illegal number: " ++ text)

/-- The dialect in which the shell reads templates and tests. -/
def dialect : Sh Template.Dialect := do
  pure (if (← Act.read).extended then .extended else .shell)

end Builtin

end AslBuild.Shell
