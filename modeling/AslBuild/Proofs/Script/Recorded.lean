import AslBuild.Proofs.Pipeline.Building
set_option autoImplicit false

/-!
# The command in the header of a script

The command that a script is made by is written behind the mark of a comment. The mark covers only
the first line of it: what comes below is part of the script like every other line.

## Main results

* `AslBuild.Settings.parse_render_of_pipelineInto` — what the script of a pipeline is read as.
* `AslBuild.Settings.parse_render_of_oneLine` — a command of one line is only a comment.
* `AslBuild.Settings.parse_render_recorded` — which commands are only comments.
* `AslBuild.Settings.exists_recorded_directive` — a command with a directive in it.
-/

namespace AslBuild.Settings

open Script

/-- The script of a pipeline is read as what the further lines of a recorded command are read as,
and then the stages of the pipeline. -/
theorem parse_render_of_pipelineInto {s : Settings} {dir : String} {p : Pipeline}
    (h : s.pipelineInto dir = .ok p) (command : Option String) :
    parse (render p command) = (readLines 4 (continuation command)).map (· ++ p.stages) :=
  parse_render (isWritable_of_pipelineInto h) command

/-- A command of one line is only a comment: the script is read as the stages of the pipeline. -/
theorem parse_render_of_oneLine {s : Settings} {dir command : String} {p : Pipeline}
    (h : s.pipelineInto dir = .ok p) (hline : '\n' ∉ command.toList) :
    parse (render p (some command)) = .ok p.stages := by
  rw [parse_render_of_pipelineInto h, continuation_eq_nil hline]
  rfl

/-- **Which commands are only comments.** The script of a pipeline with a recorded command is read
as the stages of the pipeline exactly if every line of the command but its first is blank or a
comment. Otherwise the script cannot be read, or the stages of the command stand in front.

**Proof sketch.** The stages can be written (`isWritable_of_pipelineInto`), so the script is read
part by part (`parse_render`). -/
theorem parse_render_recorded {s : Settings} {dir : String} {p : Pipeline}
    (h : s.pipelineInto dir = .ok p) (command : String) :
    (parse (render p (some command)) = .ok p.stages ↔
      ∀ l ∈ (lines command).tail, Text.trimChars l = [] ∨ commentMark.toList <+: Text.trimChars l) ∧
    parse (render p (some command)) =
      (readLines 4 (lines command).tail).map (· ++ p.stages) :=
  ⟨parse_render_eq_ok_iff (isWritable_of_pipelineInto h) (some command),
    parse_render_of_pipelineInto h (some command)⟩

/-- A command of three lines, two of which are read over. -/
theorem parse_render_recorded_remark :
    ∃ p, ({} : Settings).pipelineInto "" = .ok p ∧
      parse (render p (some "asl2c\n// a remark\n \t")) = .ok p.stages := by
  obtain ⟨p, hp⟩ : ∃ p, ({} : Settings).pipelineInto "" = .ok p := ⟨_, rfl⟩
  exact ⟨p, hp, (parse_render_recorded hp _).1.2 (by decide)⟩

/-- A command with a directive on its second line: the script is read as `quit` and then the stages
of the pipeline. -/
theorem exists_recorded_directive :
    ∃ p, ({} : Settings).pipelineInto "" = .ok p ∧
      parse (render p (some "asl2c\n:quit")) = .ok (⟨.quit, []⟩ :: p.stages) ∧
      parse (render p (some "asl2c\n:quit")) ≠ .ok p.stages := by
  obtain ⟨p, hp⟩ : ∃ p, ({} : Settings).pipelineInto "" = .ok p := ⟨_, rfl⟩
  have hquit : readLines 4 (continuation (some "asl2c\n:quit")) = .ok [⟨.quit, []⟩] := rfl
  have hread : parse (render p (some "asl2c\n:quit")) = .ok (⟨.quit, []⟩ :: p.stages) := by
    rw [parse_render_of_pipelineInto hp, hquit]
    rfl
  refine ⟨p, hp, hread, ?_⟩
  rw [hread, Ne, Except.ok.injEq]
  exact List.cons_ne_self _ _

end AslBuild.Settings
