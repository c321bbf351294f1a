import AslBuild.Environment
import AslBuild.Text.Blank
import AslBuild.Work
set_option autoImplicit false

/-!
# The native compiler

## Main definitions

* `AslBuild.Toolchain` — the words of a native compiler and the flags it is called with.
* `AslBuild.Toolchain.choose` — the words of the compiler to use.
* `AslBuild.Toolchain.ofFlags` — flags with those of the language added.
* `AslBuild.Toolchain.compile`, `AslBuild.Toolchain.link` — the commands.
-/

namespace AslBuild

/-- A native compiler and its flags. -/
structure Toolchain where
  /-- The words that the commands start with. -/
  compiler : List String
  /-- The flags for compiling generated code. -/
  compileFlags : List String
  /-- The flags for linking. -/
  linkFlags : List String
  /-- Where generated headers are. -/
  includeDir : Path
deriving DecidableEq

namespace Toolchain

/-! ## Choosing a compiler -/

/-- The compilers to look for, the most wanted first. -/
def preferred : List String := ["clang-18", "clang-17", "clang-16", "clang"]

/-- The compiler that is taken without looking for it. -/
def fallback (cxx : Bool) : String := if cxx then "g++" else "gcc"

/-- The words of the compiler that a variable asks for. -/
def override (env : Environment) : List String :=
  match env.get? Environment.compiler with
  | some value => Text.words value
  | none => []

/-- The first name that is found. -/
def firstFound (found : String → Bool) (cxx : Bool) : String :=
  (preferred.find? found).getD (fallback cxx)

/-- The words of the compiler to use: those of the variable, else the first preferred one that is
found, else the default of the language. -/
def choose {σ : Type} (env : Environment) (r : Runner σ) (cxx : Bool) : Work σ (List String) :=
  match override env with
  | [] => do
    let w ← Act.read
    pure [firstFound (fun name => (r.find name w.disk w.tools).isSome) cxx]
  | words => pure words

/-! ## Commands -/

/-- A compiler with flags, to which those of the language are added. -/
def ofFlags (compiler compileFlags linkFlags : List String) (includeDir : Path) (cxx : Bool) :
    Toolchain where
  compiler := compiler
  compileFlags := compileFlags ++ [if cxx then "-std=c++17" else "-std=c2x"]
  linkFlags := linkFlags ++ if cxx then ["-lstdc++"] else []
  includeDir := includeDir

/-- The compiler without flags. -/
def base (t : Toolchain) : Command := (Command.ofWords? t.compiler).getD ⟨"cc", []⟩

/-- The flag that adds generated headers. -/
def includeFlag (t : Toolchain) : String := "-I" ++ t.includeDir.text

/-- Compile a further source to an object file. -/
def compile (t : Toolchain) (source object : Path) : Command :=
  t.base.plus [t.includeFlag, "-c", "-o", object.text, source.text]

/-- Compile the generated sources and link them with object files. -/
def link (t : Toolchain) (sources objects : List Path) (executable : Path) : Command :=
  t.base.plus (["-Wno-parentheses-equality", t.includeFlag] ++ t.compileFlags ++
    ["-o", executable.text] ++ sources.map Path.text ++ objects.map Path.text ++ t.linkFlags)

end Toolchain

end AslBuild
