set_option autoImplicit false

/-!
# Directives

The commands of a script that this library writes: filters, transformations, checks, generators, and
the two that dump definitions and end the script.

## Main definitions

* `AslBuild.Directive` — the directives, with `name` and `ofName?`.
* `AslBuild.Directive.summary` — what a script says about a directive.
* `AslBuild.Directive.isTransform`, `AslBuild.Directive.isGenerator` — what a directive does.

## Main results

* `AslBuild.Directive.ofName?_eq_some` — a name is read exactly as the directive that bears it.
-/

namespace AslBuild

/-- A command of a script. -/
inductive Directive
  | filterReachableFrom
  | filterUnlistedFunctions
  | filterListedVariables
  | xformNamedType
  | xformDesugar
  | xformBittuples
  | xformLower
  | xformIntBitslices
  | xformGetset
  | xformValid
  | xformConstprop
  | xformMonomorphize
  | xformTuples
  | xformHoistLets
  | xformBitslices
  | xformCase
  | xformWrap
  | xformBounded
  | checkMonomorphization
  | generateC
  | generateMlir
  | dump
  | quit
deriving DecidableEq, Inhabited

namespace Directive

/-- All directives, roughly in the order in which a script uses them. -/
def all : List Directive :=
  [.filterReachableFrom, .filterUnlistedFunctions, .filterListedVariables, .xformNamedType,
    .xformDesugar, .xformBittuples, .xformLower, .xformIntBitslices, .xformGetset, .xformValid,
    .xformConstprop, .xformMonomorphize, .xformTuples, .xformHoistLets, .xformBitslices, .xformCase,
    .xformWrap, .xformBounded, .checkMonomorphization, .generateC, .generateMlir, .dump, .quit]

/-- The name of a directive. -/
def name : Directive → String
  | .filterReachableFrom => "filter_reachable_from"
  | .filterUnlistedFunctions => "filter_unlisted_functions"
  | .filterListedVariables => "filter_listed_variables"
  | .xformNamedType => "xform_named_type"
  | .xformDesugar => "xform_desugar"
  | .xformBittuples => "xform_bittuples"
  | .xformLower => "xform_lower"
  | .xformIntBitslices => "xform_int_bitslices"
  | .xformGetset => "xform_getset"
  | .xformValid => "xform_valid"
  | .xformConstprop => "xform_constprop"
  | .xformMonomorphize => "xform_monomorphize"
  | .xformTuples => "xform_tuples"
  | .xformHoistLets => "xform_hoist_lets"
  | .xformBitslices => "xform_bitslices"
  | .xformCase => "xform_case"
  | .xformWrap => "xform_wrap"
  | .xformBounded => "xform_bounded"
  | .checkMonomorphization => "check_monomorphization"
  | .generateC => "generate_c"
  | .generateMlir => "generate_mlir"
  | .dump => "show"
  | .quit => "quit"

/-- The directive of a name. -/
def ofName? (s : String) : Option Directive := all.find? fun d => d.name == s

/-- What a script says about a directive, in the comment above it. -/
def summary : Directive → String
  | .filterReachableFrom => "Discard any code not reachable from the list of exported functions"
  | .filterUnlistedFunctions => "Delete the ASL definitions of functions on the import list"
  | .filterListedVariables => "Remove thread-local state variables, they are provided out-of-band"
  | .xformNamedType => "Eliminate 'typedef'"
  | .xformDesugar => "Eliminate bit,int arithmetic operations like \"'000' + 3\""
  | .xformBittuples => "Eliminate bit-tuples like \"[x,y] = z;\" and \"x[7:0, 15:8]\""
  | .xformLower => "Convert all bit-slice operations to use the +: syntax"
  | .xformIntBitslices =>
    "Eliminate slices of integers by first converting the integer to a bitvector"
  | .xformGetset => "Convert use of getter/setter syntax to function calls"
  | .xformValid => "Instrument assignments of UNKNOWN to track valid values"
  | .xformConstprop => "Perform constant propagation without unrolling loops"
  | .xformMonomorphize => "Create specialized versions of every bitwidth-polymorphic function"
  | .xformTuples => "Change functions returning multiple results to return a record"
  | .xformHoistLets => "Lift let-expressions as high as possible out of an expression"
  | .xformBitslices =>
    "Convert bitslice operations to a combination of AND/OR and shift operations"
  | .xformCase => "Convert case statements C cannot express to if statements"
  | .xformWrap => "Wrap global variables into accessor functions"
  | .xformBounded => "Represent constrained integers by an integer of exactly the right size"
  | .checkMonomorphization => "Check that all definitions are bitwidth-monomorphic"
  | .generateC => "Generate C code from the remaining definitions"
  | .generateMlir => "Generate MLIR from the remaining definitions"
  | .dump => "Dump the current definitions"
  | .quit => "Done"

/-- Whether a directive rewrites definitions. -/
def isTransform : Directive → Bool
  | .filterReachableFrom | .filterUnlistedFunctions | .filterListedVariables
  | .checkMonomorphization | .generateC | .generateMlir | .dump | .quit => false
  | _ => true

/-- Whether a directive generates code. -/
def isGenerator : Directive → Bool
  | .generateC | .generateMlir => true
  | _ => false

theorem mem_all (d : Directive) : d ∈ all := by cases d <;> decide

/-- Every directive is found under its name. -/
theorem ofName?_name (d : Directive) : ofName? d.name = some d := by cases d <;> rfl

/-- A name is read exactly as the directive that bears it. -/
theorem ofName?_eq_some {s : String} {d : Directive} : ofName? s = some d ↔ d.name = s := by
  constructor
  · intro h
    simpa using List.find?_some h
  · rintro rfl
    exact ofName?_name d

end Directive

end AslBuild
