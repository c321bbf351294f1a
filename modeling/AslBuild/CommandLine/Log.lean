import AslBuild.Journal
set_option autoImplicit false

/-!
# Showing the log

A variable chooses which messages of the log are shown; without it, the messages on the progress of
a session are shown if the user asks for them, and warnings in any case.

## Main definitions

* `AslBuild.CommandLine.Threshold` — which messages are shown.
* `AslBuild.CommandLine.Threshold.choose` — the threshold of a program.
* `AslBuild.CommandLine.logLine` — a message as it is shown.
-/

namespace AslBuild.CommandLine

/-- How much a level says: the more, the less it matters. -/
def detail : Level → Nat
  | .error => 1
  | .warn => 2
  | .info => 3
  | .debug => 4
  | .trace => 5

/-- The most detail that is shown; 0 if nothing is. -/
abbrev Threshold : Type := Nat

namespace Threshold

/-- The variable that chooses a threshold. -/
def variableName : String := "RUST_LOG"

/-- The names of the thresholds. -/
def names : List (String × Threshold) :=
  [("off", 0), ("error", 1), ("warn", 2), ("info", 3), ("debug", 4), ("trace", 5)]

/-- The threshold of a name, in either case. Nothing is shown for a name that is none, and errors
are shown for an empty one. -/
def ofName (s : String) : Threshold :=
  if s.isEmpty then 1 else (names.lookup s.toLower).getD 0

/-- The threshold of a program. -/
def choose (value : Option String) (verbose : Bool) : Threshold :=
  match value with
  | some name => ofName name
  | none => if verbose then 3 else 2

/-- Whether a message is shown. -/
def admits (t : Threshold) (level : Level) : Bool := detail level ≤ t

end Threshold

/-- A level in brackets, with its name made up to the length of the longest. -/
def levelTag (level : Level) : String :=
  "[" ++ level.name ++ String.ofList (List.replicate (5 - level.name.length) ' ') ++ "]"

/-- A message as it is shown. Its further lines are indented. -/
def logLine (level : Level) (message : String) : String :=
  levelTag level ++ " " ++
    String.ofList (message.toList.flatMap fun c =>
      if c = '\n' then '\n' :: List.replicate 4 ' ' else [c]) ++ "\n"

end AslBuild.CommandLine
