set_option autoImplicit false

/-!
# Statistics of a session

## Main definitions

* `AslBuild.Statistics` — what a session counts.
* `AslBuild.Statistics.text` — the summary that a session ends with.
-/

namespace AslBuild

/-- What a session counts. -/
structure Statistics where
  /-- The number of stages in the script, without snapshots. -/
  stages : Nat := 0
  /-- The number of files that were written. -/
  files : Nat := 0
  /-- The short names of the tools that were run, in their order. -/
  tools : List String := []
deriving DecidableEq

namespace Statistics

/-- The summary of a session. -/
def text (s : Statistics) : String :=
  "Session Statistics:\n" ++ "  Script stages: " ++ toString s.stages ++ "\n" ++
    "  Files written: " ++ toString s.files ++ "\n" ++
    "  Tools run: " ++ toString s.tools.length ++
    if s.tools.isEmpty then "" else " (" ++ ", ".intercalate s.tools ++ ")"

end Statistics

end AslBuild
