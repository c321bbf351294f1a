import AslBuild.Act
import AslBuild.Pipeline.Assembly
import AslBuild.Proofs.Script.RoundTrip
set_option autoImplicit false

/-!
# Building a pipeline

Which settings a pipeline is built for, and what can be said of its stages for all of them. The
checks come one after the other and the stages are put together from many parts, so all of it is
first brought into one equation: check the settings, check the directory, choose the final stage.

Settings are refused in three places: by the rules for a session, by those for a pipeline, and by a
backend that is missing from the table it is looked up in.

## Main definitions

* `AslBuild.Settings.leadingStages` — the stages in front of the final stage.
* `AslBuild.Settings.effectiveFiles` — the number of files that functions are really spread over.
* `AslBuild.Settings.withSnapshots` — stages with the snapshots that were asked for.

## Main results

* `AslBuild.Settings.pipelineInto_eq` — building a pipeline, step by step.
* `AslBuild.Settings.pipelineInto_eq_ok_iff` — what it takes for a pipeline to be built, and what
  it consists of.
* `AslBuild.Settings.isWritable_of_pipelineInto` — the stages of a pipeline can be written.
* `AslBuild.Settings.pipelineInto_accepts` — for which settings a pipeline is built.
* `AslBuild.Settings.exists_objection_of_checkSession` — the rules for a session refuse by an
  objection.
* `AslBuild.Settings.pipelineInto_eq_error_iff` — why settings that keep the rules get no pipeline.
* `AslBuild.Backend.nativeFlags_eq_error` — why a backend has no native flags.
-/

namespace AslBuild

namespace Settings

/-! ## Rules -/

/-- Code is C++ if it was asked for or if the backend needs it. -/
lemma cxx_eq_true_iff {s : Settings} :
    s.cxx = true ↔ s.generateCxx = true ∨ s.backend = .ac ∨ s.backend = .sc := by
  rw [cxx, Bool.or_eq_true]
  cases s.backend <;> simp [Backend.requiresCxx]

/-- The rules for building a pipeline, one by one. -/
theorem checkPipeline_eq_ok_iff {s : Settings} :
    s.checkPipeline = .ok () ↔
      (s.constRef = 0 ∨ s.cxx = true) ∧ 1 ≤ s.functionFiles ∧ s.basename ≠ "" ∧
        Text.hasBlank s.basename = false ∧ Text.hasBlank s.outputDir = false ∧
          ∀ stem ∈ s.snapshots, Text.hasBlank stem = false := by
  have hcxx : (decide (0 < s.constRef) && !s.cxx) = false ↔ s.constRef = 0 ∨ s.cxx = true := by
    cases s.cxx <;> simp
  have hfiles : (s.functionFiles == 0) = false ↔ 1 ≤ s.functionFiles := by
    simp [Nat.one_le_iff_ne_zero]
  have hname : s.basename.isEmpty = false ↔ s.basename ≠ "" := by simp
  unfold checkPipeline
  rw [bind_eq_ok, bind_eq_ok, bind_eq_ok, bind_eq_ok, bind_eq_ok]
  simp only [objectToBlanks, objectIf_eq_ok, hcxx, hfiles, hname]
  cases s.snapshots with
  | none => simp
  | some stem => simp [objectIf_eq_ok]

/-! ## The parts of a pipeline -/

/-- The stages in front of the final stage. -/
def leadingStages (s : Settings) : List Stage :=
  if s.minimal then keepReachable :: importFilters ++ Stage.given s.boundedInts ⟨.xformBounded, []⟩
  else s.transformations

/-- The number of files that functions are really spread over. A minimal pipeline has just one. -/
def effectiveFiles (s : Settings) : Nat := if s.minimal then 1 else s.functionFiles

/-- Stages with the snapshots that were asked for. -/
def withSnapshots (s : Settings) (stages : List Stage) : List Stage :=
  match s.snapshots with
  | none => stages
  | some stem => Stage.withSnapshots stem stages

/-- **Building a pipeline, step by step**: the settings are checked, then the directory, and then
the final stage is chosen. Nothing else can go wrong. -/
theorem pipelineInto_eq (s : Settings) (dir : String) :
    s.pipelineInto dir = (do
      s.checkPipeline
      objectIf (Text.hasBlank dir) (.blankInDirectory dir)
      let final ← s.finalStage dir s.effectiveFiles
      .ok ⟨s.withSnapshots (s.leadingStages ++ [final, ⟨.quit, []⟩])⟩) := by
  unfold pipelineInto
  congr 1; funext _
  congr 1; funext _
  unfold minimalStages fullStages leadingStages effectiveFiles withSnapshots
  cases s.minimal with
  | true =>
    simp only [if_true]
    cases s.finalStage dir 1 with
    | error f => rfl
    | ok final => cases s.snapshots <;> simp [bind, Except.bind]
  | false =>
    simp only [Bool.false_eq_true, if_false]
    cases s.finalStage dir s.functionFiles with
    | error f => rfl
    | ok final => cases s.snapshots <;> simp [bind, Except.bind]

/-- What it takes for a pipeline to be built, and what it consists of. -/
theorem pipelineInto_eq_ok_iff {s : Settings} {dir : String} {p : Pipeline} :
    s.pipelineInto dir = .ok p ↔
      s.checkPipeline = .ok () ∧ Text.hasBlank dir = false ∧
        ∃ final, s.finalStage dir s.effectiveFiles = .ok final ∧
          ⟨s.withSnapshots (s.leadingStages ++ [final, ⟨.quit, []⟩])⟩ = p := by
  rw [pipelineInto_eq, bind_eq_ok_iff]
  simp only [bind_eq_ok_iff, Except.ok.injEq]
  constructor
  · rintro ⟨_, hcheck, _, hdir, hfinal⟩
    exact ⟨hcheck, objectIf_eq_ok.1 hdir, hfinal⟩
  · rintro ⟨hcheck, hdir, hfinal⟩
    exact ⟨(), hcheck, (), objectIf_eq_ok.2 hdir, hfinal⟩

/-- What the final stage is: the dump that was asked for, or the generator of the backend. -/
theorem finalStage_eq_ok {s : Settings} {dir : String} {files : Nat} {final : Stage}
    (h : s.finalStage dir files = .ok final) :
    (s.showFinal = true ∧ final = ⟨.dump, ["--format=raw"]⟩) ∨
      s.showFinal = false ∧ ∃ g, s.backend.generator = .ok g ∧
        (g.output = .c ∧ final = ⟨.generateC, s.generatorArguments g.flags dir files⟩ ∨
          g.output = .mlir ∧ final =
            ⟨.generateMlir, g.flags ++ ["--output-file=" ++ fileBelow dir "asl.mlir"]⟩) := by
  unfold finalStage at h
  split at h
  · next hshow => exact Or.inl ⟨hshow, (Except.ok.inj h).symm⟩
  · next hshow =>
    obtain ⟨g, hg, h⟩ := bind_eq_ok_iff.1 h
    refine Or.inr ⟨by simpa using hshow, g, hg, ?_⟩
    split at h
    · next hout => exact Or.inl ⟨hout, (Except.ok.inj h).symm⟩
    · next hout => exact Or.inr ⟨hout, (Except.ok.inj h).symm⟩

/-- There is a final stage unless code would have to be generated for the interpreter. -/
lemma exists_finalStage_iff {s : Settings} {dir : String} {files : Nat} :
    (∃ final, s.finalStage dir files = .ok final) ↔
      s.showFinal = true ∨ s.backend ≠ .interpreter := by
  unfold finalStage
  split
  · next h => simp [h]
  · next h => cases hb : s.backend <;> simp [h, Backend.generator, bind, Except.bind]

/-- Where the final definitions are asked for, they are dumped. -/
lemma finalStage_of_showFinal {s : Settings} {dir : String} {files : Nat}
    (h : s.showFinal = true) : s.finalStage dir files = .ok ⟨.dump, ["--format=raw"]⟩ := by
  rw [finalStage, if_pos h]

/-- The final stage neither filters nor transforms, is no snapshot and does not end the script. -/
lemma directive_finalStage {s : Settings} {dir : String} {files : Nat} {final : Stage}
    (h : s.finalStage dir files = .ok final) :
    final.isSnapshot = false ∧ (final.directive = .dump ∨ final.directive.isGenerator = true) := by
  rcases finalStage_eq_ok h with ⟨-, rfl⟩ | ⟨-, g, -, ⟨-, rfl⟩ | ⟨-, rfl⟩⟩
  · exact ⟨by decide, Or.inl rfl⟩
  · exact ⟨rfl, Or.inr rfl⟩
  · exact ⟨rfl, Or.inr rfl⟩

/-- What holds of a stage if a condition holds is what can be said of it as an optional one. -/
@[simp] lemma forall_mem_given {P : Stage → Prop} {condition : Bool} {t : Stage} :
    (∀ x ∈ Stage.given condition t, P x) ↔ (condition = true → P t) := by
  cases condition <;> simp [Stage.given]

/-- The stages in front of the final stage filter, transform or check. -/
lemma directive_of_mem_leadingStages {s : Settings} {t : Stage} (h : t ∈ s.leadingStages) :
    t.directive ≠ .dump ∧ t.directive ≠ .quit ∧ t.directive.isGenerator = false := by
  have hall : ∀ x ∈ s.leadingStages,
      x.directive ≠ .dump ∧ x.directive ≠ .quit ∧ x.directive.isGenerator = false := by
    unfold leadingStages
    split
    · simp [keepReachable, importFilters, Directive.isGenerator]
    · simp only [transformations, List.forall_mem_append, List.forall_mem_cons, forall_mem_given]
      simp [keepReachable, importFilters, propagate, specialise, Directive.isGenerator]
  exact hall t h

/-- At most 25 stages stand in front of the final stage. -/
lemma length_leadingStages_le (s : Settings) : s.leadingStages.length ≤ 25 := by
  have hgiven : ∀ (condition : Bool) (t : Stage), (Stage.given condition t).length ≤ 1 := by
    intro condition t
    cases condition <;> simp [Stage.given]
  unfold leadingStages
  split
  · have := hgiven s.boundedInts ⟨.xformBounded, []⟩
    simp only [importFilters, List.length_append, List.length_cons, List.length_nil]
    omega
  · have h1 := hgiven s.intSlices ⟨.xformIntBitslices, []⟩
    have h2 := hgiven s.trackUnknown ⟨.xformValid, ["track-valid"]⟩
    have h3 := hgiven s.hoistLets ⟨.xformHoistLets, []⟩
    have h4 := hgiven s.wrapVariables ⟨.xformWrap, []⟩
    have h5 := hgiven s.boundedInts ⟨.xformBounded, []⟩
    have h6 := hgiven s.removesThreadLocals ⟨.filterListedVariables, ["thread_local_state"]⟩
    simp only [transformations, importFilters, List.length_append, List.length_cons,
      List.length_nil]
    omega

end Settings

/-! ## The words of a pipeline -/

namespace Stage

/-- A stage without arguments can be written. -/
@[simp] lemma isWritable_nil (d : Directive) : IsWritable ⟨d, []⟩ := by simp [IsWritable]

/-- A stage can be written if its first argument is a word and it can be written without it. -/
@[simp] lemma isWritable_cons {d : Directive} {a : String} {as : List String} :
    IsWritable ⟨d, a :: as⟩ ↔ Text.IsWord a ∧ IsWritable ⟨d, as⟩ := by
  simp [IsWritable]

/-- A stage can be written with more arguments if it can be written with each part of them. -/
lemma isWritable_append {d : Directive} {as bs : List String} :
    IsWritable ⟨d, as ++ bs⟩ ↔ IsWritable ⟨d, as⟩ ∧ IsWritable ⟨d, bs⟩ := by
  simp only [IsWritable, List.forall_mem_append]

/-- An argument that is there if a condition holds does no harm if it is a word. -/
lemma isWritable_option {d : Directive} {condition : Bool} {a : String} (h : Text.IsWord a) :
    IsWritable ⟨d, option condition a⟩ := by
  cases condition <;> simp [option, h]

/-- The number of a snapshot is written without blanks. -/
lemma hasBlank_twoDigits (n : Nat) : Text.hasBlank (twoDigits n) = false := by
  have hzero : Text.hasBlank "0" = false := (Text.isWord_ofList (w := ['0']) (by decide)).2
  unfold twoDigits
  split
  · rw [Text.hasBlank_append, hzero, Text.hasBlank_toString]
    rfl
  · exact Text.hasBlank_toString n

/-- A snapshot can be written if what its file starts with holds no blank. -/
lemma isWritable_snapshot {stem : String} (h : Text.hasBlank stem = false) (n : Nat) (s : Stage) :
    (s.snapshot stem n).IsWritable := by
  have hdot : Text.IsWord "." := Text.isWord_ofList (w := ['.']) (by decide)
  have hext : Text.IsWord ".asl" := Text.isWord_ofList (w := ['.', 'a', 's', 'l']) (by decide)
  have hfile : Text.IsWord (s.snapshotFile stem n) := by
    refine ⟨?_, ?_⟩
    · simp [snapshotFile]
    · simp [snapshotFile, h, hdot.2, hext.2, hasBlank_twoDigits, s.directive.isWord_name.2]
  simp only [snapshot, isWritable_cons, isWritable_nil, hfile, and_true]
  exact ⟨Text.isWord_ofList (by decide), Text.isWord_ofList (by decide)⟩

/-- Snapshots do not change what can be said of all stages if it can be said of them, too. -/
lemma forall_mem_withSnapshotsFrom {P : Stage → Prop} {stem : String}
    (hsnapshot : ∀ n s, P (snapshot stem n s)) {stages : List Stage} (h : ∀ s ∈ stages, P s)
    (n : Nat) : ∀ s ∈ withSnapshotsFrom stem n stages, P s := by
  induction stages generalizing n with
  | nil => simp [withSnapshotsFrom]
  | cons s stages ih =>
    rw [List.forall_mem_cons] at h
    rw [withSnapshotsFrom]
    split
    · exact List.forall_mem_cons.2 ⟨h.1, ih h.2 n⟩
    · exact List.forall_mem_cons.2
        ⟨h.1, List.forall_mem_cons.2 ⟨hsnapshot n s, ih h.2 (n + 1)⟩⟩

/-- A condition that holds of no snapshot picks the same stages with snapshots as without. -/
lemma filter_withSnapshotsFrom {P : Stage → Bool} {stem : String}
    (hsnapshot : ∀ n s, P (snapshot stem n s) = false) (stages : List Stage) (n : Nat) :
    (withSnapshotsFrom stem n stages).filter P = stages.filter P := by
  induction stages generalizing n with
  | nil => rfl
  | cons s stages ih =>
    rw [withSnapshotsFrom]
    split
    · rw [List.filter_cons, List.filter_cons, ih]
    · simp only [List.filter_cons, hsnapshot, ih, Bool.false_eq_true, if_false]

end Stage

namespace Settings

/-- The generator's flags for every backend are words. -/
lemma isWord_of_generator {b : Backend} {g : Generator} (h : b.generator = .ok g) :
    ∀ a ∈ g.flags, Text.IsWord a := by
  cases b <;> simp only [Backend.generator, Except.ok.injEq, reduceCtorEq] at h <;> subst h <;>
    simp only [List.forall_mem_cons, List.not_mem_nil, false_implies, implies_true, and_true]
  all_goals exact Text.isWord_ofList (by decide)

/-- The arguments for generating C are words if the basename and the directory hold no blank. -/
lemma isWritable_generatorArguments {s : Settings} {flags : List String} {dir : String}
    {files : Nat} (hflags : ∀ a ∈ flags, Text.IsWord a) (hname : Text.hasBlank s.basename = false)
    (hdir : Text.hasBlank dir = false) :
    Stage.IsWritable ⟨.generateC, s.generatorArguments flags dir files⟩ := by
  have hline : Text.IsWord (if s.lineInfo then "--line-info" else "--no-line-info") := by
    cases s.lineInfo <;> exact Text.isWord_ofList (by decide)
  simp only [generatorArguments, Stage.isWritable_append, Stage.isWritable_cons,
    Stage.isWritable_nil, and_true]
  refine ⟨⟨⟨⟨⟨?_, hflags⟩, ?_⟩, ?_⟩, ?_⟩, ?_, ?_, ?_, hline⟩
  · exact Stage.isWritable_option (Text.isWord_ofList (by decide))
  · refine Stage.isWritable_option (Text.IsWord.append ?_ (Text.hasBlank_toString _))
    exact Text.isWord_ofList (by decide)
  · exact Stage.isWritable_option (Text.isWord_ofList (by decide))
  · exact Stage.isWritable_option (Text.isWord_ofList (by decide))
  · exact Text.IsWord.append (Text.isWord_ofList (by decide)) hdir
  · exact Text.IsWord.append (Text.isWord_ofList (by decide)) hname
  · exact Text.IsWord.append (Text.isWord_ofList (by decide)) (Text.hasBlank_toString _)

/-- A file in a directory whose name holds no blank. -/
lemma hasBlank_fileBelow {dir file : String} (hdir : Text.hasBlank dir = false)
    (hfile : Text.hasBlank file = false) : Text.hasBlank (fileBelow dir file) = false := by
  have hblank : ∀ c ∈ dir.toList, Text.isBlank c = false := by simpa [Text.hasBlank] using hdir
  unfold fileBelow
  split
  · exact hfile
  · have hkept : ∀ c ∈ (dir.toList.reverse.dropWhile (· == '/')).reverse,
        Text.isBlank c = false := by
      intro c hc
      have hc := (List.dropWhile_subset _) (List.mem_reverse.1 hc)
      exact hblank c (List.mem_reverse.1 hc)
    have hslash : Text.isBlank '/' = false := by decide
    simp only [Text.hasBlank, String.toList_ofList, List.any_append, List.any_cons,
      Bool.or_eq_false_iff, hslash, true_and]
    exact ⟨List.any_eq_false.2 fun c hc => by simp [hkept c hc], hfile⟩

/-- The final stage can be written if the basename and the directory hold no blank. -/
lemma isWritable_finalStage {s : Settings} {dir : String} {files : Nat} {final : Stage}
    (hname : Text.hasBlank s.basename = false) (hdir : Text.hasBlank dir = false)
    (h : s.finalStage dir files = .ok final) : final.IsWritable := by
  rcases finalStage_eq_ok h with ⟨-, rfl⟩ | ⟨-, g, hg, ⟨-, rfl⟩ | ⟨-, rfl⟩⟩
  · exact Stage.isWritable_cons.2 ⟨Text.isWord_ofList (by decide), Stage.isWritable_nil _⟩
  · exact isWritable_generatorArguments (isWord_of_generator hg) hname hdir
  · have hfile : Text.hasBlank (fileBelow dir "asl.mlir") = false :=
      hasBlank_fileBelow hdir
        (Text.isWord_ofList (w := ['a', 's', 'l', '.', 'm', 'l', 'i', 'r']) (by decide)).2
    rw [Stage.isWritable_append, Stage.isWritable_cons]
    exact ⟨isWord_of_generator hg, Text.IsWord.append (Text.isWord_ofList (by decide)) hfile,
      Stage.isWritable_nil _⟩

/-- The filters for imports can be written. -/
lemma isWritable_importFilters : ∀ s ∈ importFilters, s.IsWritable := by
  simp only [importFilters, List.forall_mem_cons, Stage.isWritable_cons, Stage.isWritable_nil,
    List.not_mem_nil, false_implies, implies_true, and_true]
  exact ⟨Text.isWord_ofList (by decide), Text.isWord_ofList (by decide)⟩

/-- The filter that keeps what the exports need can be written. -/
lemma isWritable_keepReachable : keepReachable.IsWritable := by
  simp only [keepReachable, Stage.isWritable_cons, Stage.isWritable_nil, and_true]
  exact ⟨Text.isWord_ofList (by decide), Text.isWord_ofList (by decide)⟩

/-- The stage that specialises functions can be written. -/
lemma isWritable_specialise (s : Settings) : s.specialise.IsWritable := by
  unfold specialise
  cases s.autoCaseSplit <;> exact Stage.isWritable_cons.2
    ⟨Text.isWord_ofList (by decide), Stage.isWritable_nil _⟩

/-- The stages of a full pipeline in front of its final stage can be written. -/
lemma isWritable_transformations (s : Settings) : ∀ t ∈ s.transformations, t.IsWritable := by
  have hpropagate : propagate.IsWritable :=
    Stage.isWritable_cons.2 ⟨Text.isWord_ofList (by decide), Stage.isWritable_nil _⟩
  have hslices : Stage.IsWritable
      ⟨.xformBitslices, Stage.option s.backend.hasBitSlices "--notransform"⟩ :=
    Stage.isWritable_option (Text.isWord_ofList (by decide))
  have hvalid : Stage.IsWritable ⟨.xformValid, ["track-valid"]⟩ :=
    Stage.isWritable_cons.2 ⟨Text.isWord_ofList (by decide), Stage.isWritable_nil _⟩
  have hlocals : Stage.IsWritable ⟨.filterListedVariables, ["thread_local_state"]⟩ :=
    Stage.isWritable_cons.2 ⟨Text.isWord_ofList (by decide), Stage.isWritable_nil _⟩
  have hcheck : Stage.IsWritable ⟨.checkMonomorphization, ["--fatal", "--verbose"]⟩ := by
    simp only [Stage.isWritable_cons, Stage.isWritable_nil, and_true]
    exact ⟨Text.isWord_ofList (by decide), Text.isWord_ofList (by decide)⟩
  have hfilters := isWritable_importFilters
  simp only [transformations, List.forall_mem_append, List.forall_mem_cons, List.not_mem_nil,
    false_implies, implies_true, and_true, forall_mem_given, Stage.isWritable_nil, true_and,
    isWritable_keepReachable, s.isWritable_specialise, hpropagate, hslices, hvalid, hlocals, hcheck]
  exact hfilters

/-- The stages in front of the final stage can be written. -/
lemma isWritable_leadingStages (s : Settings) : ∀ t ∈ s.leadingStages, t.IsWritable := by
  unfold leadingStages
  split
  · simp only [List.cons_append, List.forall_mem_cons, List.forall_mem_append, forall_mem_given]
    exact ⟨isWritable_keepReachable, isWritable_importFilters, fun _ => Stage.isWritable_nil _⟩
  · exact s.isWritable_transformations

/-- **The stages of a pipeline can be written**, snapshots included.

**Proof sketch.** What is not fixed in an argument is a number, or the basename, a directory or what
the files of snapshots start with. The checks have made sure that none of these holds a blank. -/
theorem isWritable_of_pipelineInto {s : Settings} {dir : String} {p : Pipeline}
    (h : s.pipelineInto dir = .ok p) : ∀ t ∈ p.stages, t.IsWritable := by
  obtain ⟨hcheck, hdir, final, hfinal, rfl⟩ := pipelineInto_eq_ok_iff.1 h
  obtain ⟨-, -, -, hname, -, hstem⟩ := checkPipeline_eq_ok_iff.1 hcheck
  have hstages : ∀ t ∈ s.leadingStages ++ [final, ⟨.quit, []⟩], t.IsWritable := by
    simp only [List.forall_mem_append, List.forall_mem_cons, List.not_mem_nil, false_implies,
      implies_true, and_true]
    exact ⟨s.isWritable_leadingStages, isWritable_finalStage hname hdir hfinal,
      Stage.isWritable_nil _⟩
  cases hs : s.snapshots with
  | none => simpa only [withSnapshots, hs] using hstages
  | some stem =>
    simp only [withSnapshots, hs]
    exact Stage.forall_mem_withSnapshotsFrom
      (fun n t => Stage.isWritable_snapshot (hstem stem (by simp [hs])) n t) hstages 0

/-! ## Which pipelines are built -/

/-- **Which pipelines are built.** A pipeline is built exactly if arguments go by reference only in
C++, there is a file for the functions, the generated files have a name, no value that becomes part
of a word holds a blank, and code is not asked for from the interpreter. Every argument of every
stage is then a word, and every stage is a single line that is read back as that stage.

**Proof sketch.** `pipelineInto_eq_ok_iff` reduces the first part to the rules of the settings
(`checkPipeline_eq_ok_iff`), the directory, and the final stage (`exists_finalStage_iff`). The
second part is `isWritable_of_pipelineInto`. -/
theorem pipelineInto_accepts (s : Settings) (dir : String) :
    ((∃ p, s.pipelineInto dir = .ok p) ↔
      (s.constRef = 0 ∨ s.generateCxx = true ∨ s.backend = .ac ∨ s.backend = .sc) ∧
        1 ≤ s.functionFiles ∧ s.basename ≠ "" ∧ Text.hasBlank s.basename = false ∧
        Text.hasBlank s.outputDir = false ∧ (∀ stem ∈ s.snapshots, Text.hasBlank stem = false) ∧
        Text.hasBlank dir = false ∧ (s.showFinal = true ∨ s.backend ≠ .interpreter)) ∧
    ∀ p, s.pipelineInto dir = .ok p → ∀ t ∈ p.stages,
      (∀ a ∈ t.arguments, a ≠ "" ∧ Text.hasBlank a = false) ∧
        '\n' ∉ t.text.toList ∧ Script.readLine t.text.toList = .ok (some t) := by
  refine ⟨?_, fun p h t ht => ?_⟩
  · have hexists : (∃ final, s.finalStage dir s.effectiveFiles = .ok final) ↔
        s.showFinal = true ∨ s.backend ≠ .interpreter := exists_finalStage_iff
    rw [← cxx_eq_true_iff, ← hexists]
    constructor
    · rintro ⟨p, h⟩
      obtain ⟨hcheck, hdir, final, hfinal, -⟩ := pipelineInto_eq_ok_iff.1 h
      obtain ⟨hcxx, hfiles, hempty, hname, hout, hstem⟩ := checkPipeline_eq_ok_iff.1 hcheck
      exact ⟨hcxx, hfiles, hempty, hname, hout, hstem, hdir, final, hfinal⟩
    · rintro ⟨hcxx, hfiles, hempty, hname, hout, hstem, hdir, final, hfinal⟩
      have hcheck := checkPipeline_eq_ok_iff.2 ⟨hcxx, hfiles, hempty, hname, hout, hstem⟩
      exact ⟨_, pipelineInto_eq_ok_iff.2 ⟨hcheck, hdir, final, hfinal, rfl⟩⟩
  · have hw := isWritable_of_pipelineInto h t ht
    exact ⟨hw, hw.newline_not_mem_text, Script.readLine_text hw⟩

/-- C++ with arguments by reference and snapshots, into a directory of its own. -/
theorem pipelineInto_accepts_cxx :
    ∃ p, pipelineInto { backend := .ac, constRef := 128, snapshots := some "log" } "out" = .ok p ∧
      ∀ t ∈ p.stages, (∀ a ∈ t.arguments, a ≠ "" ∧ Text.hasBlank a = false) ∧
        '\n' ∉ t.text.toList ∧ Script.readLine t.text.toList = .ok (some t) := by
  have hstem : ∀ stem ∈ some "log", Text.hasBlank stem = false := by
    rintro _ ⟨⟩
    decide
  obtain ⟨p, hp⟩ := (pipelineInto_accepts
    { backend := .ac, constRef := 128, snapshots := some "log" } "out").1.2
    ⟨by decide, by decide, by decide, by decide, by decide, hstem, by decide, by decide⟩
  exact ⟨p, hp, (pipelineInto_accepts _ _).2 p hp⟩

end Settings

/-! ## Refused settings -/

/-- A backend has no native flags if it is missing from the table of native builds, or if the
variable that names its library is not set. -/
theorem Backend.nativeFlags_eq_error {env : Environment} {b : Backend} {e : Failure}
    (h : b.nativeFlags env = .error e) :
    b = .mlir ∧ e = .unknownBackend "mlir" "native" ∨
      b = .sc ∧ env.get? Environment.scTypes = none ∧
        e = .missingVariable Environment.scTypes "SystemC" := by
  cases b with
  | mlir => exact Or.inl ⟨rfl, (Except.error.inj h).symm⟩
  | sc =>
    rw [Backend.nativeFlags] at h
    split at h
    · exact absurd h (by simp)
    · next hvar => exact Or.inr ⟨rfl, hvar, (Except.error.inj h).symm⟩
  | ac | c23 | interpreter | fallback => exact absurd h (by simp [Backend.nativeFlags])

namespace Settings

/-! ## Objections -/

/-- A rule refuses by an objection. -/
lemma exists_objection_of_objectIf {condition : Bool} {objection : Objection} {e : Failure}
    (h : objectIf condition objection = .error e) : ∃ o, e = .invalid o := by
  unfold objectIf at h
  split at h
  · exact ⟨objection, (Except.error.inj h).symm⟩
  · exact absurd h (by simp)

/-- Two rules refuse by an objection if each does. -/
lemma exists_objection_of_bind {x : Except Failure Unit} {y : Unit → Except Failure Unit}
    {e : Failure} (h : (x >>= y) = .error e) (hx : x = .error e → ∃ o, e = .invalid o)
    (hy : y () = .error e → ∃ o, e = .invalid o) : ∃ o, e = .invalid o := by
  rcases bind_eq_error_iff.1 h with hfirst | ⟨_, -, hsecond⟩
  · exact hx hfirst
  · exact hy hsecond

/-- The rules for a pipeline refuse by an objection. -/
lemma exists_objection_of_checkPipeline {s : Settings} {e : Failure}
    (h : s.checkPipeline = .error e) : ∃ o, e = .invalid o := by
  unfold checkPipeline at h
  refine exists_objection_of_bind h exists_objection_of_objectIf fun h => ?_
  refine exists_objection_of_bind h exists_objection_of_objectIf fun h => ?_
  refine exists_objection_of_bind h exists_objection_of_objectIf fun h => ?_
  refine exists_objection_of_bind h exists_objection_of_objectIf fun h => ?_
  refine exists_objection_of_bind h exists_objection_of_objectIf fun h => ?_
  split at h
  · exact exists_objection_of_objectIf h
  · exact absurd h (by simp)

/-- The rules for a session refuse by an objection. -/
theorem exists_objection_of_checkSession {s : Settings} {inputs : List Path} {e : Failure}
    (h : s.checkSession inputs = .error e) : ∃ o, e = .invalid o := by
  unfold checkSession at h
  refine exists_objection_of_bind h exists_objection_of_objectIf fun h => ?_
  refine exists_objection_of_bind h exists_objection_of_objectIf fun h => ?_
  refine exists_objection_of_bind h exists_objection_of_objectIf fun h => ?_
  refine exists_objection_of_bind h exists_objection_of_objectIf fun h => ?_
  refine exists_objection_of_bind h exists_objection_of_objectIf fun h => ?_
  exact exists_objection_of_bind h exists_objection_of_objectIf exists_objection_of_checkPipeline

/-! ## Pipelines -/

/-- There is no final stage only where code would have to be generated for the interpreter. -/
lemma finalStage_eq_error_iff {s : Settings} {dir : String} {files : Nat} {e : Failure} :
    s.finalStage dir files = .error e ↔
      s.showFinal = false ∧ s.backend = .interpreter ∧
        e = .unknownBackend "interpreter" "code generation" := by
  unfold finalStage
  split
  · next h => simp [h]
  · next h =>
    cases hb : s.backend <;> simp [h, Backend.generator, bind, Except.bind, eq_comm]

/-- **Why settings that keep the rules get no pipeline**: the directory holds a blank, or code would
have to be generated for the interpreter. -/
theorem pipelineInto_eq_error_iff {s : Settings} {dir : String} {e : Failure}
    (h : s.checkPipeline = .ok ()) :
    s.pipelineInto dir = .error e ↔
      Text.hasBlank dir = true ∧ e = .invalid (.blankInDirectory dir) ∨
        Text.hasBlank dir = false ∧ s.showFinal = false ∧ s.backend = .interpreter ∧
          e = .unknownBackend "interpreter" "code generation" := by
  rw [pipelineInto_eq, bind_eq_error_iff, h]
  cases hdir : Text.hasBlank dir with
  | true =>
    have hfirst : (objectIf true (.blankInDirectory dir) : Except Failure Unit) =
        .error (.invalid (.blankInDirectory dir)) := rfl
    simp [hfirst, bind_eq_error_iff, @eq_comm _ e]
  | false =>
    have hfirst : (objectIf false (.blankInDirectory dir) : Except Failure Unit) = .ok () := rfl
    simp [hfirst, bind_eq_error_iff, finalStage_eq_error_iff]

/-- No pipeline is refused because of a tool. -/
lemma ne_tool_of_pipelineInto {s : Settings} {dir : String} {e : Failure}
    (h : s.pipelineInto dir = .error e) (t : ToolFailure) : e ≠ .tool t := by
  rintro rfl
  cases hcheck : s.checkPipeline with
  | error e =>
    rw [pipelineInto, hcheck] at h
    obtain ⟨o, rfl⟩ := exists_objection_of_checkPipeline hcheck
    exact absurd h (by simp [bind, Except.bind])
  | ok _ =>
    rcases (pipelineInto_eq_error_iff hcheck).1 h with ⟨-, h⟩ | ⟨-, -, -, h⟩
    · exact absurd h (by simp)
    · exact absurd h (by simp)

end Settings

end AslBuild
