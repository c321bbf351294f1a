import AslBuild.Backend
set_option autoImplicit false

/-!
# Options of the command line

There are switches, which are there or not, and options with a value. Some switches come in pairs
that undo each other.

## Main definitions

* `AslBuild.CommandLine.Switch` — the switches, with `longName` and `opposite?`.
* `AslBuild.CommandLine.Valued` — the options with a value.
* `AslBuild.CommandLine.Valued.accepts` — the values that an option takes.
* `AslBuild.CommandLine.Valued.isRepeatable` — whether an option may be given more than once.
-/

namespace AslBuild.CommandLine

/-! ## Switches -/

/-- A switch. -/
inductive Switch
  /-- Split functions by cases, or do not. -/
  | autoCaseSplit (on : Bool)
  /-- Check type constraints, or do not. -/
  | constraintChecks (on : Bool)
  /-- Name the lines that generated code comes from, or do not. -/
  | lineInfo (on : Bool)
  /-- Check bounds and the like at run time, or do not. -/
  | runtimeChecks (on : Bool)
  | splitThreadLocal
  | generateCxx
  | newFfi
  | splitState
  | transformIntSlices
  | instrumentUnknown
  | wrapVariables
  | noHoistLets
  | printCompileFlags
  | printLinkFlags
  | build
  | run
  | showFinal
  | saveTemps
  | dryRun
  | verbose
  | help
  | version
deriving DecidableEq

namespace Switch

/-- All switches. -/
def all : List Switch :=
  [.autoCaseSplit true, .autoCaseSplit false, .constraintChecks true, .constraintChecks false,
    .lineInfo true, .lineInfo false, .runtimeChecks true, .runtimeChecks false, .splitThreadLocal,
    .generateCxx, .newFfi, .splitState, .transformIntSlices, .instrumentUnknown, .wrapVariables,
    .noHoistLets, .printCompileFlags, .printLinkFlags, .build, .run, .showFinal, .saveTemps,
    .dryRun, .verbose, .help, .version]

/-- The name of a switch of a pair. -/
def pairName (name : String) (on : Bool) : String := if on then name else "no-" ++ name

/-- The long name of a switch. -/
def longName : Switch → String
  | .autoCaseSplit on => pairName "auto-case-split" on
  | .constraintChecks on => pairName "constraint-checks" on
  | .lineInfo on => pairName "line-info" on
  | .runtimeChecks on => pairName "runtime-checks" on
  | .splitThreadLocal => "split-thread-local"
  | .generateCxx => "generate-cxx"
  | .newFfi => "new-ffi"
  | .splitState => "split-state"
  | .transformIntSlices => "transform-int-slices"
  | .instrumentUnknown => "instrument-unknown"
  | .wrapVariables => "wrap-variables"
  | .noHoistLets => "no-hoist-lets"
  | .printCompileFlags => "print-c-flags"
  | .printLinkFlags => "print-ld-flags"
  | .build => "build"
  | .run => "run"
  | .showFinal => "show-final-asl"
  | .saveTemps => "save-temps"
  | .dryRun => "dry-run"
  | .verbose => "verbose"
  | .help => "help"
  | .version => "version"

/-- The switch of a long name. -/
def ofLong? (s : String) : Option Switch := all.find? fun w => w.longName == s

/-- The switch of a letter. -/
def ofShort? (c : Char) : Option Switch :=
  match c with
  | 'v' => some .verbose
  | 'h' => some .help
  | 'V' => some .version
  | _ => none

/-- The other switch of a pair. -/
def opposite? : Switch → Option Switch
  | .autoCaseSplit on => some (.autoCaseSplit !on)
  | .constraintChecks on => some (.constraintChecks !on)
  | .lineInfo on => some (.lineInfo !on)
  | .runtimeChecks on => some (.runtimeChecks !on)
  | _ => none

end Switch

/-! ## Options with a value -/

/-- An option with a value. -/
inductive Valued
  | intermediates
  | outputDir
  | basename
  | functionFiles
  | configuration
  | constRef
  | extraC
  | exported
  | imported
  | threadLocal
  | level
  | backend
  | workingDir
  | asli
deriving DecidableEq

namespace Valued

/-- All options with a value. -/
def all : List Valued :=
  [.intermediates, .outputDir, .basename, .functionFiles, .configuration, .constRef, .extraC,
    .exported, .imported, .threadLocal, .level, .backend, .workingDir, .asli]

/-- The long name of an option. The optimisation level has only a letter. -/
def longName? : Valued → Option String
  | .intermediates => some "intermediates"
  | .outputDir => some "output-dir"
  | .basename => some "basename"
  | .functionFiles => some "num-c-files"
  | .configuration => some "configuration"
  | .constRef => some "const-ref"
  | .extraC => some "extra-c"
  | .exported => some "export"
  | .imported => some "import"
  | .threadLocal => some "thread-local"
  | .level => none
  | .backend => some "backend"
  | .workingDir => some "working-dir"
  | .asli => some "asli"

/-- The option of a long name. -/
def ofLong? (s : String) : Option Valued := all.find? fun o => o.longName? == some s

/-- The letter of the optimisation level. -/
def levelLetter : Char := 'O'

/-- Whether an option may be given more than once. -/
def isRepeatable : Valued → Bool
  | .configuration | .extraC | .exported | .imported | .threadLocal | .level => true
  | _ => false

end Valued

/-! ## Values -/

/-- The greatest number that an option takes. -/
def maxNumber : Nat := 4294967295

/-- The value of decimal digits. -/
def digits? (cs : List Char) : Option Nat :=
  if cs.isEmpty || !cs.all Char.isDigit then none
  else some (cs.foldl (fun n c => n * 10 + (c.toNat - 48)) 0)

/-- A number: digits, of which any number may be zeros at the front, after a plus sign or nothing. A
minus sign is possible in front of zero alone. -/
def number? (s : String) : Option Nat :=
  let value := match s.toList with
    | '+' :: cs => digits? cs
    | '-' :: cs => (digits? cs).filter (· == 0)
    | cs => digits? cs
  value.filter fun n => n ≤ maxNumber

/-- The optimisation level that leaves the transformations out. -/
def minimalLevel : String := "0"

/-- The optimisation level that gives integers their exact width. -/
def boundedLevel : String := "bounded"

/-- The values that an option takes. A path cannot be empty. -/
def Valued.accepts (o : Valued) (value : String) : Bool :=
  match o with
  | .functionFiles | .constRef => (number? value).isSome
  | .configuration | .extraC | .workingDir | .asli => !value.isEmpty
  | .backend => (Backend.ofName value).toOption.isSome
  | .level => value == minimalLevel || value == boundedLevel
  | .intermediates | .outputDir | .basename | .exported | .imported | .threadLocal => true

end AslBuild.CommandLine
