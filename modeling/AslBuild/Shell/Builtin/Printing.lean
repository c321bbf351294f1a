import AslBuild.Shell.Builtin.Variables
set_option autoImplicit false

/-!
# Printing and testing

## Main definitions

* `AslBuild.Shell.Builtin.echo`, `AslBuild.Shell.Builtin.printf` — print.
* `AslBuild.Shell.Builtin.test` — test what the arguments say.
-/

namespace AslBuild.Shell

open FileSystem Host Text

namespace Builtin

/-! ## Printing -/

/-- The escapes that `echo` knows if it is asked for them. -/
def echoEscapes (extended : Bool) : Escape.Style :=
  { octal := !extended, zeroOctal := true, hex := extended, stops := true
    capitalEscape := extended }

/-- The options of `echo` in the language with extensions, and the words behind them. -/
def echoOptions : List String → List Char × List String
  | a :: args =>
    match a.toList with
    | '-' :: c :: cs =>
      if (c :: cs).all fun c => c == 'n' || c == 'e' || c == 'E' then
        let (more, rest) := echoOptions args
        (c :: cs ++ more, rest)
      else ([], a :: args)
    | _ => ([], a :: args)
  | [] => ([], [])

/-- What `echo` prints. -/
def echoText (extended : Bool) (args : List String) : String :=
  let (opts, words) :=
    if extended then echoOptions args
    else match args with
      | "-n" :: words => (['n'], words)
      | words => ([], words)
  let escapes := if extended then (opts.filter (· != 'n')).getLast? == some 'e' else true
  let text := " ".intercalate words
  let (text, stop) := if escapes then Escape.unescape (echoEscapes extended) text else (text, false)
  if opts.contains 'n' || stop then text else text ++ "\n"

/-- Print the arguments. -/
def echo : Builtin := fun args => do
  print (echoText (← Act.read).extended args)
  pure 0

/-- Print a template, or set a variable to it. -/
def printf : Builtin := fun args => do
  let s ← Act.read
  let (opts, rest) ← options (if s.extended then "v:" else "") args
  match value? 'v' opts with
  | some name =>
    match ← (checkPlace name).attempt with
    | .ok () => pure ()
    | .error flow => do
      setStatus 2
      Act.fail flow
  | none => pure ()
  match rest with
  | [] =>
    if s.extended then
      sayUsage
      pure 2
    else fail "usage: printf format [arg ...]"
  | template :: args =>
    let filled := Template.fill (← dialect) template args
    match value? 'v' opts with
    | some name => assignPlace name filled.out
    | none => print filled.out
    filled.messages.forM complain
    pure filled.status

/-! ## Testing -/

/-- What tests are about. -/
def facts : Sh Facts := do
  let s ← Act.read
  pure
    { disk := s.disk, opened := openedAt? s.machine s.process, isSet := s.isSet, isOn := s.has }

/-- Test what the arguments say. -/
def test : Builtin := fun args => do
  match Shell.test (← dialect) (← facts) args with
  | .ok holds => pure (if holds then 0 else 1)
  | .error e => failWith 2 (e.message (← dialect))

/-- Test what the arguments in front of a closing bracket say. -/
def bracket : Builtin := fun args => do
  if args.getLast? = some "]" then test args.dropLast
  else failWith 2 (if (← Act.read).extended then "missing \x60]'" else "missing ]")

end Builtin

end AslBuild.Shell
