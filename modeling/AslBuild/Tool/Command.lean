import AslBuild.Failure
set_option autoImplicit false

/-!
# Commands

## Main definitions

* `AslBuild.Command` — a program and its arguments.
* `AslBuild.Command.line` — the command as one line of text.
* `AslBuild.Command.tool` — the short name of the program.
* `AslBuild.Command.failed`, `AslBuild.Command.unavailable` — the failures of a command.
-/

namespace AslBuild

/-- A program and its arguments. -/
structure Command where
  /-- The program: a path, or a name that is looked up. -/
  program : String
  /-- Its arguments. -/
  arguments : List String := []
deriving DecidableEq

namespace Command

/-- The command whose words are given, the first of which is the program. -/
def ofWords? : List String → Option Command
  | [] => none
  | program :: arguments => some ⟨program, arguments⟩

/-- The command with further arguments. -/
def plus (c : Command) (arguments : List String) : Command :=
  { c with arguments := c.arguments ++ arguments }

/-- The words of the command with a space between each two. Nothing is quoted: the line is for
reading. -/
def line (c : Command) : String := " ".intercalate (c.program :: c.arguments)

/-- The short name of the program: its file name, if it has one. -/
def tool (c : Command) : String := (Path.fileName? ⟨c.program⟩).getD c.program

/-- The command ended with a status other than zero. -/
def failed (c : Command) (code : Int) : ToolFailure := .failed c.tool c.line code

/-- The command could not be started. -/
def unavailable (c : Command) (cause : IoError) : ToolFailure := .unavailable c.line cause

end Command

end AslBuild
