import AslBuild.Text.Search
import AslBuild.Tool.Runner
set_option autoImplicit false

/-!
# Rehearsing a session

In a rehearsal no tool is started. The commands are noted, and what would come of them is laid down
beforehand, by texts that occur in their lines.

## Main definitions

* `AslBuild.Rehearsal` — what is laid down.
* `AslBuild.Rehearsal.failureOf?`, `AslBuild.Rehearsal.outputOf` — what comes of a command.
* `AslBuild.Rehearsal.runner` — the runner that notes the commands.
-/

namespace AslBuild

open FileSystem

/-- What is laid down for a rehearsal. -/
structure Rehearsal where
  /-- The status of a command whose line holds a text; the first entry that fits counts. -/
  failures : List (String × Int) := []
  /-- The output of a command whose line holds a text; the first entry that fits counts. -/
  outputs : List (String × String) := []
  /-- The programs that are there; the last entry for a name counts. -/
  programs : List (String × Path) := []

namespace Rehearsal

/-- What belongs to the first text that occurs in a line. -/
def matching {α : Type} (line : String) (entries : List (String × α)) : Option α :=
  (entries.find? fun e => Text.occursIn e.1 line).map (·.2)

/-- Why a command fails, if it does. -/
def failureOf? (r : Rehearsal) (c : Command) : Option ToolFailure :=
  (matching c.line r.failures).map c.failed

/-- What a command prints, if it does not fail. -/
def outputOf (r : Rehearsal) (c : Command) : String := (matching c.line r.outputs).getD ""

/-- Note a command and say so. -/
def note {α : Type} (r : Rehearsal) (c : Command) (d : Disk) (noted : List String) (value : α) :
    Reply (List String) α :=
  { result := match r.failureOf? c with
      | some failure => .error (.tool failure)
      | none => .ok value
    state := noted ++ [c.line]
    tree := d.tree
    remarks := [.logged .info ("[dry-run] " ++ c.line)] }

/-- The runner of a rehearsal. Its state is the lines of the commands so far. -/
def runner (r : Rehearsal) : Runner (List String) where
  run c d noted := r.note c d noted ()
  capture c d noted := r.note c d noted (r.outputOf c)
  find name _ _ := r.programs.reverse.lookup name

end Rehearsal

end AslBuild
