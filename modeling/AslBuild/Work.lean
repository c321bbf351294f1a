import AslBuild.FileSystem.Operations
import AslBuild.Tool.Runner
set_option autoImplicit false

/-!
# Steps of a session

A step of a session acts on the files, on the state of the runner and on the journal, and it may
fail.

## Main definitions

* `AslBuild.World` — what a step acts on.
* `AslBuild.Work` — a step.
* `AslBuild.Work.log`, `AslBuild.Work.progress` — log a message.
* `AslBuild.Work.onDisk` — a step over the files.
* `AslBuild.Work.invoke`, `AslBuild.Work.ask` — call a tool.
-/

namespace AslBuild

open FileSystem

/-- What a step acts on, where the runner's state has type `σ`. -/
structure World (σ : Type) where
  /-- The files. -/
  disk : Disk
  /-- What was done so far. -/
  journal : List Event := []
  /-- The state of the runner. -/
  tools : σ

/-- A step of a session. -/
abbrev Work (σ α : Type) : Type := Act Failure (World σ) α

namespace Work

section

variable {σ α : Type}

/-- Add an event to the journal. -/
def note (e : Event) : Work σ Unit := Act.update fun w => { w with journal := w.journal ++ [e] }

/-- Log a message. -/
def log (level : Level) (message : String) : Work σ Unit := note (.said (.logged level message))

/-- Log a message on the progress of a session. -/
def progress (verbose : Bool) (message : String) : Work σ Unit :=
  log (Level.progress verbose) message

/-- A step over the files, with a name for its failures. -/
def onDisk (wrap : IoError → Failure) (x : Disk.Step α) : Work σ α :=
  Act.within World.disk (fun d w => { w with disk := d }) wrap x

/-- The failure in a result, if it is one. -/
def failureIn? : Except Failure α → Option Failure
  | .ok _ => none
  | .error failure => some failure

/-- Call a tool, and take over what comes of it. -/
def call (mode : CallMode) (request : Command → Disk → σ → Reply σ α) (c : Command) : Work σ α :=
  fun w =>
    let reply := request c w.disk w.tools
    (reply.result,
      { disk := { w.disk with tree := reply.tree }
        journal := w.journal ++
          .called mode c (failureIn? reply.result) :: reply.remarks.map .said
        tools := reply.state })

/-- Run a tool for what it does. Its short name is given, for the statistics. -/
def invoke (r : Runner σ) (c : Command) : Work σ String := do
  call .run r.run c
  pure c.tool

/-- Run a tool for what it prints. -/
def ask (r : Runner σ) (c : Command) : Work σ String := call .capture r.capture c

end

end Work

end AslBuild
