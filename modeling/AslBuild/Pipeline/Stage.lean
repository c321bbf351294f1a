import AslBuild.Pipeline.Directive
set_option autoImplicit false

/-!
# Stages

A stage is a directive with its arguments. A script has one line for it.

## Main definitions

* `AslBuild.Stage` — a directive and its arguments.
* `AslBuild.Stage.text` — the line of a stage.
* `AslBuild.Stage.isSnapshot` — whether a stage dumps definitions into a file.
* `AslBuild.Pipeline` — stages in the order in which they are done.
* `AslBuild.Pipeline.position?`, `AslBuild.Pipeline.positions` — where a directive stands.
* `AslBuild.Pipeline.withoutSnapshots` — the stages that do more than show what others did.
-/

namespace AslBuild

/-- A directive and its arguments. -/
structure Stage where
  /-- The command. -/
  directive : Directive
  /-- Its arguments. -/
  arguments : List String := []
deriving DecidableEq

namespace Stage

/-- The mark in front of a directive. -/
def mark : Char := ':'

/-- The line of a stage: the mark, the name, and each argument after a space. -/
def text (s : Stage) : String :=
  " ".intercalate ((mark.toString ++ s.directive.name) :: s.arguments)

/-- Whether a stage has an argument. -/
def hasArgument (s : Stage) (argument : String) : Bool := s.arguments.contains argument

/-- Whether a stage dumps definitions into a file. The dump at the end of a script, in place of
generated code, goes to standard output. -/
def isSnapshot (s : Stage) : Bool := s.directive == .dump && s.hasArgument "--output"

end Stage

/-- Stages in the order in which they are done. -/
structure Pipeline where
  /-- The stages. -/
  stages : List Stage
deriving DecidableEq

namespace Pipeline

/-- The number of stages. -/
def size (p : Pipeline) : Nat := p.stages.length

/-- The places of the stages with a directive, where the first stage has the given number. -/
def positionsFrom (d : Directive) : Nat → List Stage → List Nat
  | _, [] => []
  | n, s :: rest =>
    if s.directive = d then n :: positionsFrom d (n + 1) rest else positionsFrom d (n + 1) rest

/-- The places of the stages with a directive, counted from 0. -/
def positions (p : Pipeline) (d : Directive) : List Nat := positionsFrom d 0 p.stages

/-- The place of the first stage with a directive. -/
def position? (p : Pipeline) (d : Directive) : Option Nat := (p.positions d).head?

/-- The stage that generates code. -/
def generatorStage? (p : Pipeline) : Option Stage := p.stages.find? fun s => s.directive.isGenerator

/-- The stages that are not snapshots. -/
def withoutSnapshots (p : Pipeline) : List Stage := p.stages.filter fun s => !s.isSnapshot

end Pipeline

end AslBuild
