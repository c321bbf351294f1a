import AslBuild.FileSystem.Resolve
import AslBuild.Journal
set_option autoImplicit false

/-!
# What runs tools

A session does not start tools itself. It asks a *runner*, which may keep a state of its own, may
change the files, and may say something. A runner is told what the files are and answers with what
they are then; it can neither move the working directory nor change what the journal says of it.

## Main definitions

* `AslBuild.Runner` — how to run a command, how to ask one, how to find a program.
* `AslBuild.Reply` — what comes of a call.
* `AslBuild.Runner.watched` — a runner that shows every command to an onlooker first.
-/

namespace AslBuild

open FileSystem

/-- What comes of a call. -/
structure Reply (σ α : Type) where
  /-- The result, or why there is none. -/
  result : Except Failure α
  /-- The runner's own state. -/
  state : σ
  /-- The files. -/
  tree : Tree
  /-- What was said. -/
  remarks : List Remark

/-- What runs tools, with a state of type `σ`. -/
structure Runner (σ : Type) where
  /-- Run a command for what it does. -/
  run : Command → Disk → σ → Reply σ Unit
  /-- Run a command for what it prints. -/
  capture : Command → Disk → σ → Reply σ String
  /-- The path of a program. -/
  find : String → Disk → σ → Option Path

namespace Runner

/-! ## Watching a runner -/

/-- What an onlooker sees of a call. -/
structure Sighting where
  /-- How the tool is called. -/
  mode : CallMode
  /-- The command. -/
  command : Command
  /-- The files before the call. -/
  tree : Tree

section

variable {σ α : Type}

/-- A call that an onlooker sees first; the onlooker may change the files before it is made. -/
def watchedCall (touch : Command → Disk → Tree) (mode : CallMode)
    (call : Command → Disk → σ → Reply σ α) (c : Command) (d : Disk) (s : σ × List Sighting) :
    Reply (σ × List Sighting) α :=
  let reply := call c { d with tree := touch c d } s.1
  { result := reply.result, state := (reply.state, s.2 ++ [⟨mode, c, d.tree⟩]), tree := reply.tree,
    remarks := reply.remarks }

/-- A runner that shows every command to an onlooker first. -/
def watched (r : Runner σ) (touch : Command → Disk → Tree) : Runner (σ × List Sighting) where
  run := watchedCall touch .run r.run
  capture := watchedCall touch .capture r.capture
  find name d s := r.find name d s.1

end

end Runner

end AslBuild
