import AslBuild.Environment
import AslBuild.Failure
set_option autoImplicit false

/-!
# Backends

A backend decides two things on its own: which directive of the script generates code and with which
flags, and which flags the native compiler and linker need for that code. Each of the two is a
table, and a backend may be missing from either.

## Main definitions

* `AslBuild.Backend` — the backends, with `name` and `ofName`.
* `AslBuild.Generator`, `AslBuild.Backend.generator` — how code is generated for a backend.
* `AslBuild.NativeFlags`, `AslBuild.Backend.nativeFlags` — what a native build for a backend needs.

## Main results

* `AslBuild.Backend.ofName_eq_ok` — a name is read exactly as the backend that bears it.
-/

namespace AslBuild

/-- The runtimes that code can be generated for. -/
inductive Backend
  /-- The Algorithmic C types, in C++. -/
  | ac
  /-- The exact-width integers of C23. -/
  | c23
  /-- No code: the definitions are interpreted. -/
  | interpreter
  /-- Portable C. -/
  | fallback
  /-- MLIR. -/
  | mlir
  /-- The SystemC types, in C++. -/
  | sc
deriving DecidableEq, Inhabited

namespace Backend

/-- All backends. -/
def all : List Backend := [.ac, .c23, .interpreter, .fallback, .mlir, .sc]

/-- The name of a backend. -/
def name : Backend → String
  | .ac => "ac"
  | .c23 => "c23"
  | .interpreter => "interpreter"
  | .fallback => "fallback"
  | .mlir => "mlir"
  | .sc => "sc"

/-- The backend of a name. -/
def ofName (s : String) : Except Failure Backend :=
  match all.find? fun b => b.name == s with
  | some b => .ok b
  | none => .error (.unknownBackend s "registered")

/-- Whether the runtime is a C++ library, so that the generated code has to be C++. -/
def requiresCxx : Backend → Bool
  | .ac | .sc => true
  | _ => false

/-- Whether the runtime has slices of bits of its own, so that they are not expanded into shifts and
masks. -/
def hasBitSlices : Backend → Bool
  | .ac | .sc => true
  | _ => false

theorem mem_all (b : Backend) : b ∈ all := by cases b <;> decide

/-- A name is read exactly as the backend that bears it. -/
theorem ofName_eq_ok {s : String} {b : Backend} : ofName s = .ok b ↔ b.name = s := by
  constructor
  · intro h
    unfold ofName at h
    split at h
    · next c hc =>
      obtain rfl : c = b := by simpa using h
      simpa using List.find?_some hc
    · exact absurd h (by simp)
  · rintro rfl
    cases b <;> rfl

end Backend

/-! ## Generating code -/

/-- What a generator writes. -/
inductive Output
  /-- Several files of C or C++. -/
  | c
  /-- One file of MLIR. -/
  | mlir
deriving DecidableEq

/-- How code is generated for a backend. -/
structure Generator where
  /-- What is written. -/
  output : Output
  /-- The flags that choose the runtime. -/
  flags : List String
deriving DecidableEq

/-- The generator of a backend. The interpreter has none. -/
def Backend.generator : Backend → Except Failure Generator
  | .ac => .ok ⟨.c, ["--runtime=ac"]⟩
  | .c23 => .ok ⟨.c, ["--runtime=c23"]⟩
  | .fallback => .ok ⟨.c, ["--runtime=fallback"]⟩
  | .sc => .ok ⟨.c, ["--runtime=sc"]⟩
  | .mlir => .ok ⟨.mlir, []⟩
  | .interpreter => .error (.unknownBackend "interpreter" "code generation")

/-! ## Native builds -/

/-- What a native build for a backend needs, on top of what the compiler's own runtime needs. -/
structure NativeFlags where
  /-- Flags for compiling. -/
  compile : List String
  /-- Flags for linking. -/
  link : List String
  /-- Whether a C++ compiler is needed. -/
  cxx : Bool
deriving DecidableEq

/-- The flag that adds the headers below a directory. -/
def includeBelow (dir : String) : String := "-I" ++ dir ++ "/include"

/-- The native flags of a backend. The Algorithmic C types may be in a default place, so their
directory is optional; the SystemC library has to be linked, so its directory is not. -/
def Backend.nativeFlags (env : Environment) : Backend → Except Failure NativeFlags
  | .ac =>
    .ok ⟨"-DASL_AC" :: ((env.get? Environment.acTypes).map includeBelow).toList, [], true⟩
  | .c23 => .ok ⟨["-DASL_C23"], [], false⟩
  | .interpreter => .ok ⟨[], [], false⟩
  | .fallback => .ok ⟨["-DASL_FALLBACK"], [], false⟩
  | .sc =>
    match env.get? Environment.scTypes with
    | some dir => .ok ⟨["-DASL_SC", includeBelow dir], ["-L" ++ dir ++ "/lib", "-lsystemc"], true⟩
    | none => .error (.missingVariable Environment.scTypes "SystemC")
  | .mlir => .error (.unknownBackend "mlir" "native")

end AslBuild
