import AslBuild.Proofs.Pipeline.Order
set_option autoImplicit false

/-!
# Minimal pipelines

A minimal pipeline skips the transformations. Its stages are put together apart from those of a full
pipeline, and yet the two go together: for the same settings both are built or none is, what the
minimal one does is part of the full one, and both generate the same code but for the number of
files.

## Main definitions

* `AslBuild.Stage.inOneFile` — a stage, with all functions in one file.
* `AslBuild.Pipeline.Abridges` — how a minimal pipeline relates to the full one.

## Main results

* `AslBuild.Settings.finalStage_one` — the final stage for one file against that for several.
* `AslBuild.Settings.pipelineInto_minimal` — a minimal pipeline against the full one.
-/

namespace AslBuild

namespace Stage

/-! ## The number of files -/

/-- The option that gives the number of files for functions. -/
def filesOption : String := "--num-c-files="

/-- An argument, with the number of files 1 if it gives the number of files. -/
def oneFile (argument : String) : String :=
  if filesOption.toList <+: argument.toList then filesOption ++ "1" else argument

/-- A stage, with all functions in one file. -/
def inOneFile (s : Stage) : Stage := ⟨s.directive, s.arguments.map oneFile⟩

/-- A number of files becomes 1. -/
lemma oneFile_filesOption (number : String) :
    oneFile (filesOption ++ number) = filesOption ++ "1" :=
  if_pos (by rw [String.toList_append]; exact List.prefix_append _ _)

/-- An argument for another option stays. -/
lemma oneFile_append (option : String) (h : ¬ option.toList <+: filesOption.toList)
    (h' : ¬ filesOption.toList <+: option.toList) (value : String) :
    oneFile (option ++ value) = option ++ value := by
  refine if_neg fun hprefix => ?_
  rw [String.toList_append] at hprefix
  rcases List.prefix_or_prefix_of_prefix hprefix (List.prefix_append _ _) with hle | hle
  · exact h' hle
  · exact h hle

/-- An optional argument stays if it is for another option. -/
lemma map_oneFile_option {condition : Bool} {argument : String}
    (h : oneFile argument = argument) : (option condition argument).map oneFile =
      option condition argument := by
  cases condition <;> simp [option, h]

end Stage

namespace Settings

/-- The arguments for one file against those for several. -/
lemma generatorArguments_one {s : Settings} {flags : List String}
    (hflags : ∀ a ∈ flags, Stage.oneFile a = a) (dir : String) (files : Nat) :
    s.generatorArguments flags dir 1 =
      (s.generatorArguments flags dir files).map Stage.oneFile := by
  have hconst := Stage.oneFile_append "--const-ref=" (by decide) (by decide)
    (toString s.constRef)
  have hdir := Stage.oneFile_append "--output-dir=" (by decide) (by decide) dir
  have hname := Stage.oneFile_append "--basename=" (by decide) (by decide) s.basename
  have hfiles : Stage.oneFile ("--num-c-files=" ++ toString files) = "--num-c-files=1" :=
    Stage.oneFile_filesOption _
  have hline : Stage.oneFile (if s.lineInfo then "--line-info" else "--no-line-info") =
      if s.lineInfo then "--line-info" else "--no-line-info" := by
    cases s.lineInfo <;> decide
  have hkept : flags.map Stage.oneFile = flags := by
    rw [List.map_congr_left hflags, List.map_id']
  simp only [generatorArguments, List.map_append, List.map_cons, List.map_nil, hkept, hdir, hname,
    hfiles, hline]
  rw [Stage.map_oneFile_option (by decide), Stage.map_oneFile_option hconst,
    Stage.map_oneFile_option (by decide), Stage.map_oneFile_option (by decide)]
  rfl

/-- No flag of a generator gives the number of files. -/
lemma oneFile_of_generator {b : Backend} {g : Generator} (h : b.generator = .ok g) :
    ∀ a ∈ g.flags, Stage.oneFile a = a := by
  cases b <;> simp only [Backend.generator, Except.ok.injEq, reduceCtorEq] at h <;> subst h <;>
    decide

/-- **The final stage for one file against that for several.** Whether there is one does not depend
on the number of files, and it is the same but for the number. -/
theorem finalStage_one (s : Settings) (dir : String) (files : Nat) :
    s.finalStage dir 1 = (s.finalStage dir files).map Stage.inOneFile := by
  unfold finalStage
  split
  · rfl
  · cases hg : s.backend.generator with
    | error e => rfl
    | ok g =>
      have hflags := oneFile_of_generator hg
      obtain ⟨output, flags⟩ := g
      cases output with
      | c =>
        show Except.ok _ = Except.ok _
        rw [generatorArguments_one hflags dir files]
        rfl
      | mlir =>
        have hfile := Stage.oneFile_append "--output-file=" (by decide) (by decide)
          (fileBelow dir "asl.mlir")
        show Except.ok _ = Except.ok (Stage.inOneFile _)
        rw [Stage.inOneFile, List.map_append, List.map_congr_left hflags, List.map_id',
          List.map_singleton, hfile]

end Settings

/-! ## The two pipelines -/

/-- **How a minimal pipeline relates to the full one** for the same settings. -/
structure Pipeline.Abridges (p q : Pipeline) : Prop where
  /-- It has fewer stages. -/
  size_lt : p.size < q.size
  /-- So it is without the snapshots. -/
  length_lt : p.withoutSnapshots.length < q.withoutSnapshots.length
  /-- Both start with the same stage. -/
  same_start : ∃ first rest rest', p.stages = first :: rest ∧ q.stages = first :: rest'
  /-- Both filter the imports, and right after that what only the imports needed. -/
  same_filters : ∀ r ∈ [p, q],
    [⟨.filterUnlistedFunctions, ["imports"]⟩, ⟨.filterReachableFrom, ["exports"]⟩] <:+:
      r.withoutSnapshots
  /-- What the minimal one does before its final stage, the full one does, too. Their final stages
  are the same but for the number of files, which is 1 in the minimal one. -/
  same_end : ∃ body body' final final', p.withoutSnapshots = body ++ [final, ⟨.quit, []⟩] ∧
    q.withoutSnapshots = body' ++ [final', ⟨.quit, []⟩] ∧ (∀ t ∈ body, t ∈ body') ∧
      final = final'.inOneFile

namespace Settings

/-- With snapshots there are as many stages again, but for `quit`. -/
lemma length_withSnapshots (s : Settings) {body : List Stage}
    (hbody : ∀ t ∈ body, t.directive ≠ .quit) :
    (s.withSnapshots (body ++ [⟨.quit, []⟩])).length =
      (if s.snapshots.isSome then 2 * body.length else body.length) + 1 := by
  unfold withSnapshots
  cases s.snapshots with
  | none => simp
  | some stem =>
    show (Stage.withSnapshotsFrom stem 0 (body ++ [⟨.quit, []⟩])).length = _
    rw [Stage.withSnapshotsFrom_append_quit hbody rfl]
    simp [List.length_flatMap, Nat.mul_comm]

/-- The first stage stays the first one with snapshots. -/
lemma exists_withSnapshots_cons (s : Settings) (t : Stage) (stages : List Stage) :
    ∃ rest, s.withSnapshots (t :: stages) = t :: rest := by
  unfold withSnapshots
  cases s.snapshots with
  | none => exact ⟨_, rfl⟩
  | some stem =>
    show ∃ rest, Stage.withSnapshotsFrom stem 0 (t :: stages) = t :: rest
    rw [Stage.withSnapshotsFrom]
    split <;> exact ⟨_, rfl⟩

section

variable {s : Settings} {dir : String}

/-- The stages in front of the final one in a minimal pipeline are fewer than those in the full one,
which has all of them. -/
lemma leadingStages_minimal :
    { s with minimal := true }.leadingStages.length <
        { s with minimal := false }.leadingStages.length ∧
      ∀ t ∈ { s with minimal := true }.leadingStages,
        t ∈ { s with minimal := false }.leadingStages := by
  have hbounding : bounding { s with minimal := true } = bounding { s with minimal := false } := rfl
  obtain ⟨rest, hhead⟩ := leadingStages_head { s with minimal := false }
  have hfull := leadingStages_of_full (s := { s with minimal := false }) rfl
  rw [leadingStages_of_minimal (s := { s with minimal := true }) rfl, hbounding]
  refine ⟨?_, fun t ht => ?_⟩
  · rw [hfull, rewriting, desugaring]
    simp only [List.length_append, List.length_cons, List.length_nil]
    omega
  · rw [List.cons_append, List.mem_cons] at ht
    rcases ht with rfl | ht
    · rw [hhead]
      exact List.mem_cons_self
    · rw [hfull]
      simp only [List.mem_append] at ht ⊢
      tauto

/-- A pipeline filters the imports, and right after that what only they needed. -/
lemma importFilters_isInfix {p : Pipeline} (h : s.pipelineInto dir = .ok p) :
    importFilters <:+: p.withoutSnapshots := by
  obtain ⟨final, -, -, hwithout⟩ := stages_of_pipelineInto h
  obtain ⟨before, after, hleading, -⟩ := s.leadingStages_imports
  rw [hwithout, hleading]
  exact ⟨before, after ++ [final] ++ [⟨.quit, []⟩], by simp only [List.append_assoc]⟩

/-- A minimal pipeline is refused for the same reason as the full one. -/
lemma pipelineInto_minimal_eq_error_iff {e : Failure} :
    { s with minimal := true }.pipelineInto dir = .error e ↔
      { s with minimal := false }.pipelineInto dir = .error e := by
  cases hcheck : s.checkPipeline with
  | error e' =>
    have hminimal : checkPipeline { s with minimal := true } = .error e' := hcheck
    have hfull : checkPipeline { s with minimal := false } = .error e' := hcheck
    rw [pipelineInto, pipelineInto, hminimal, hfull]
    rfl
  | ok _ =>
    have hminimal : checkPipeline { s with minimal := true } = .ok () := hcheck
    have hfull : checkPipeline { s with minimal := false } = .ok () := hcheck
    rw [pipelineInto_eq_error_iff hminimal, pipelineInto_eq_error_iff hfull]

/-- **What the minimal pipeline is of the full one**, where both are built. -/
lemma abridges_of_pipelineInto {p q : Pipeline}
    (hp : { s with minimal := true }.pipelineInto dir = .ok p)
    (hq : { s with minimal := false }.pipelineInto dir = .ok q) : p.Abridges q := by
  obtain ⟨final, hfinal, hstages, hwithout⟩ := stages_of_pipelineInto hp
  obtain ⟨final', hfinal', hstages', hwithout'⟩ := stages_of_pipelineInto hq
  obtain ⟨hlength, hmem⟩ := leadingStages_minimal (s := s)
  have hsize := length_withSnapshots { s with minimal := true }
    fun t ht => (plain_of_finalStage hfinal t ht).2
  have hsize' := length_withSnapshots { s with minimal := false }
    fun t ht => (plain_of_finalStage hfinal' t ht).2
  have hone : final = final'.inOneFile := by
    have hminimal : s.finalStage dir 1 = .ok final := hfinal
    have hfull : s.finalStage dir s.functionFiles = .ok final' := hfinal'
    rw [finalStage_one s dir s.functionFiles, hfull] at hminimal
    exact (Except.ok.inj hminimal).symm
  refine
    { size_lt := ?_
      length_lt := ?_
      same_start := ?_
      same_filters := ?_
      same_end := ⟨_, _, final, final', ?_, ?_, hmem, hone⟩ }
  · rw [Pipeline.size, Pipeline.size, hstages, hstages', hsize, hsize']
    simp only [List.length_append, List.length_singleton]
    split <;> omega
  · rw [hwithout, hwithout']
    simpa using hlength
  · obtain ⟨rest, hhead⟩ := leadingStages_head { s with minimal := true }
    obtain ⟨rest', hhead'⟩ := leadingStages_head { s with minimal := false }
    rw [hstages, hstages', hhead, hhead']
    obtain ⟨below, hbelow⟩ := exists_withSnapshots_cons { s with minimal := true } keepReachable
      (rest ++ [final] ++ [⟨.quit, []⟩])
    obtain ⟨below', hbelow'⟩ := exists_withSnapshots_cons { s with minimal := false } keepReachable
      (rest' ++ [final'] ++ [⟨.quit, []⟩])
    exact ⟨keepReachable, below, below', hbelow, hbelow'⟩
  · rw [List.forall_mem_cons, List.forall_mem_singleton]
    exact ⟨importFilters_isInfix hp, importFilters_isInfix hq⟩
  · rw [hwithout, List.append_assoc]
    rfl
  · rw [hwithout', List.append_assoc]
    rfl

end

/-- **A minimal pipeline against the full one**, for all settings and every directory that code is
generated into: both are refused for the same reason, or the minimal one abridges the full one.

**Proof sketch.** What is checked and which final stage there is does not depend on the option, but
for the number of files (`pipelineInto_minimal_eq_error_iff`, `finalStage_one`). The stages in front
of the final one are compared part by part (`leadingStages_minimal`), and snapshots are added to
both in the same way. -/
theorem pipelineInto_minimal (s : Settings) (dir : String) :
    (∃ e, { s with minimal := true }.pipelineInto dir = .error e ∧
      { s with minimal := false }.pipelineInto dir = .error e) ∨
    ∃ p q, { s with minimal := true }.pipelineInto dir = .ok p ∧
      { s with minimal := false }.pipelineInto dir = .ok q ∧ p.Abridges q := by
  cases hq : { s with minimal := false }.pipelineInto dir with
  | error e => exact Or.inl ⟨e, pipelineInto_minimal_eq_error_iff.2 hq, rfl⟩
  | ok q =>
    cases hp : { s with minimal := true }.pipelineInto dir with
    | error e =>
      rw [pipelineInto_minimal_eq_error_iff, hq] at hp
      cases hp
    | ok p => exact Or.inr ⟨p, q, rfl, rfl, abridges_of_pipelineInto hp hq⟩

end Settings

end AslBuild
