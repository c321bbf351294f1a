import AslBuild.Text.Search
import AslBuild.Text.Blank
import AslBuild.Work
set_option autoImplicit false

/-!
# The compiler and its runtime

Generated code needs the headers and the library of the runtime that comes with the compiler. A
compiler that was installed by its package manager is asked for the flags; one in its build tree has
its runtime at a fixed place beside the directory that the compiler is in.

## Main definitions

* `AslBuild.Installation` — the path of the compiler.
* `AslBuild.Installation.inDir` — the compiler in a directory.
* `AslBuild.Installation.compileFlags`, `AslBuild.Installation.linkFlags` — what its runtime needs.
-/

namespace AslBuild

open FileSystem

/-- A compiler, by the path of its program. -/
structure Installation where
  /-- The path of the program. -/
  program : Path
deriving DecidableEq

namespace Installation

/-- The compiler in a directory: `asli` if that is there, else `asli.exe`. -/
def inDir (d : Disk) (dir : Path) : Installation :=
  if d.present (dir.join ⟨"asli"⟩) then ⟨dir.join ⟨"asli"⟩⟩ else ⟨dir.join ⟨"asli.exe"⟩⟩

/-- Whether the compiler was installed by its package manager, whose directories bear its name. -/
def isInstalled (i : Installation) : Bool := Text.occursIn "opam" i.program.text

/-- The directory above the one that the compiler is in. -/
def root (i : Installation) : Path := (i.program.parent?.bind Path.parent?).getD ⟨""⟩

/-- The headers of the runtime in a build tree. -/
def includeDir (i : Installation) : Path := i.root.join ⟨"lib/asli/runtime_include"⟩

/-- The library of the runtime in a build tree. -/
def library (i : Installation) : Path := i.root.join ⟨"lib/asli/runtime/libASL.a"⟩

section

variable {σ : Type}

/-- Ask the compiler for flags. -/
def query (i : Installation) (r : Runner σ) (flag : String) : Work σ (List String) := do
  let output ← Work.ask r ⟨i.program.text, [flag]⟩
  pure (Text.words output)

/-- The flags for compiling against the runtime. -/
def compileFlags (i : Installation) (r : Runner σ) : Work σ (List String) :=
  if i.isInstalled then i.query r "--print-c-flags" else pure ["-I" ++ i.includeDir.text]

/-- The flags for linking against the runtime. -/
def linkFlags (i : Installation) (r : Runner σ) : Work σ (List String) :=
  if i.isInstalled then i.query r "--print-ld-flags" else pure [i.library.text]

end

end Installation

end AslBuild
