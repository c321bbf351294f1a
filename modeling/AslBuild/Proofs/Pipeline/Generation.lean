import AslBuild.Proofs.Pipeline.Building
import Mathlib.Data.List.Nodup
set_option autoImplicit false

/-!
# The stage that generates code

Where code is generated, just one stage of a pipeline does it. What it is told is put together from
many settings, as a list in which most arguments come only for some of them, and the others hold
texts that anything may stand in. Nothing of that is lost: every argument shows which option it
belongs to, an option has at most one argument, and what the stage was made for can be read off its
arguments.

## Main definitions

* `AslBuild.Settings.generatingStage` — the stage that generates code.
* `AslBuild.GeneratorOption` — what an argument of this stage can be for.
* `AslBuild.GeneratorChoices` — what the stage is made for.

## Main results

* `AslBuild.Settings.filter_of_isGenerator` — only the final stage of a pipeline generates code.
* `AslBuild.Settings.filter_generatesC` — the pipeline of a native build has just one such stage.
* `AslBuild.GeneratorOption.eq_of_accepts` — an argument belongs to one option.
* `AslBuild.GeneratorChoices.arguments_injective` — the arguments tell what the stage is made for.
* `AslBuild.Settings.generatingStage_exact` — pipelines with the same stage were built for the same
  choices.
-/

namespace AslBuild

/-! ## The stage of a pipeline -/

/-- Whether a stage generates C or C++. -/
def Stage.generatesC (t : Stage) : Bool := t.directive = .generateC

namespace Settings

variable {s : Settings} {dir : String} {p : Pipeline}

/-- A backend whose code can be linked generates C or C++ for its runtime. -/
lemma generator_of_linkable (hinterpreter : s.backend ≠ .interpreter) (hmlir : s.backend ≠ .mlir) :
    s.backend.generator = .ok ⟨.c, ["--runtime=" ++ s.backend.name]⟩ := by
  cases hb : s.backend <;> first | rfl | exact absurd hb ‹_›

/-- The stage that generates code into a directory. -/
def generatingStage (s : Settings) (dir : String) : Stage :=
  ⟨.generateC, s.generatorArguments ["--runtime=" ++ s.backend.name] dir s.effectiveFiles⟩

/-- **A pipeline generates code in its final stage**, if at all: a condition that holds only of
stages that generate code picks at most this one. -/
lemma filter_of_isGenerator {P : Stage → Bool}
    (hP : ∀ t, P t = true → t.directive.isGenerator = true) (hp : s.pipelineInto dir = .ok p) :
    ∃ final, s.finalStage dir s.effectiveFiles = .ok final ∧
      p.stages.filter P = [final].filter P := by
  obtain ⟨-, -, final, hfinal, rfl⟩ := pipelineInto_eq_ok_iff.1 hp
  have hother {t : Stage} (h : t.directive.isGenerator = false) : P t = false :=
    Bool.eq_false_iff.2 fun ht => Bool.eq_false_iff.1 h (hP t ht)
  have hleading : s.leadingStages.filter P = [] :=
    List.filter_eq_nil_iff.2 fun t ht => by simp [hother (directive_of_mem_leadingStages ht).2.2]
  have hquit : P ⟨.quit, []⟩ = false := hother rfl
  have hstages : (s.leadingStages ++ [final, ⟨.quit, []⟩]).filter P = [final].filter P := by
    rw [List.filter_append, hleading, List.nil_append, List.filter_cons, List.filter_singleton,
      List.filter_cons, hquit]
    rfl
  refine ⟨final, hfinal, ?_⟩
  cases hsnapshots : s.snapshots with
  | none => simpa only [withSnapshots, hsnapshots] using hstages
  | some stem =>
    simp only [withSnapshots, hsnapshots, Stage.withSnapshots]
    rw [Stage.filter_withSnapshotsFrom fun n t => hother rfl, hstages]

/-- **The script of a native build has just one stage that generates code.** -/
lemma filter_generatesC (hp : s.pipelineInto dir = .ok p) (hshow : s.showFinal = false)
    (hinterpreter : s.backend ≠ .interpreter) (hmlir : s.backend ≠ .mlir) :
    p.stages.filter Stage.generatesC = [s.generatingStage dir] := by
  have hgenerates (t : Stage) (ht : t.generatesC = true) : t.directive.isGenerator = true := by
    rw [show t.directive = .generateC by simpa [Stage.generatesC] using ht]
    rfl
  obtain ⟨final, hfinal, hfilter⟩ := filter_of_isGenerator hgenerates hp
  rw [finalStage, hshow, generator_of_linkable hinterpreter hmlir] at hfinal
  obtain rfl : s.generatingStage dir = final := Except.ok.inj hfinal
  exact hfilter

end Settings

/-- Different numbers have different digits. -/
lemma Text.toString_injective : Function.Injective (toString : Nat → String) := by
  intro m n h
  have h := congrArg (fun t => Nat.ofDigitChars 10 t.toList 0) h
  simpa using h

/-! ## Options -/

/-- What an argument of the stage that generates code can be for. -/
inductive GeneratorOption
  /-- Whether the new foreign function interface is used. -/
  | newFfi
  /-- The runtime of the backend. -/
  | runtime
  /-- The number of bits above which arguments go by reference. -/
  | constRef
  /-- Whether C++ is generated. -/
  | cxx
  /-- Whether the state is split. -/
  | splitState
  /-- The directory for the files. -/
  | outputDir
  /-- What the names of the files start with. -/
  | basename
  /-- The number of files for functions. -/
  | files
  /-- Whether the code names the lines it comes from. -/
  | lineInfo
deriving DecidableEq

namespace GeneratorOption

/-- The options, in the order of the arguments. -/
def all : List GeneratorOption :=
  [newFfi, runtime, constRef, cxx, splitState, outputDir, basename, files, lineInfo]

@[simp] lemma mem_all (o : GeneratorOption) : o ∈ all := by
  cases o <;> decide

lemma nodup_all : all.Nodup := by decide

/-- What an argument for an option can start with. -/
def stems : GeneratorOption → List String
  | newFfi => ["--new-ffi"]
  | runtime => ["--runtime="]
  | constRef => ["--const-ref="]
  | cxx => ["--generate-cxx"]
  | splitState => ["--split-state"]
  | outputDir => ["--output-dir="]
  | basename => ["--basename="]
  | files => ["--num-c-files="]
  | lineInfo => ["--line-info", "--no-line-info"]

/-- Whether an argument is for an option, as far as what it starts with shows. -/
def accepts (o : GeneratorOption) (argument : String) : Bool :=
  o.stems.any fun stem => stem.toList.isPrefixOf argument.toList

/-- An argument with something behind a stem is for the option of the stem. -/
lemma accepts_append {o : GeneratorOption} {stem : String} (h : stem ∈ o.stems) (value : String) :
    o.accepts (stem ++ value) = true := by
  refine List.any_eq_true.2 ⟨stem, h, List.isPrefixOf_iff_prefix.2 ?_⟩
  rw [String.toList_append]
  exact List.prefix_append _ _

/-- No stem starts with the stem of another option. -/
lemma eq_of_stems : ∀ o ∈ all, ∀ o' ∈ all, ∀ stem ∈ o.stems, ∀ stem' ∈ o'.stems,
    stem.toList <+: stem'.toList → o = o' := by
  decide +kernel

/-- **An argument belongs to one option.** What stands behind the stem does not matter.

**Proof sketch.** Of two texts that an argument starts with, one starts with the other. -/
theorem eq_of_accepts {o o' : GeneratorOption} {argument : String}
    (h : o.accepts argument = true) (h' : o'.accepts argument = true) : o = o' := by
  obtain ⟨stem, hstem, hprefix⟩ := List.any_eq_true.1 h
  obtain ⟨stem', hstem', hprefix'⟩ := List.any_eq_true.1 h'
  rw [List.isPrefixOf_iff_prefix] at hprefix hprefix'
  rcases List.prefix_or_prefix_of_prefix hprefix hprefix' with hle | hle
  · exact eq_of_stems o o.mem_all o' o'.mem_all stem hstem stem' hstem' hle
  · exact (eq_of_stems o' o'.mem_all o o.mem_all stem' hstem' stem hstem hle).symm

end GeneratorOption

/-! ## Choices -/

/-- What the stage that generates code is made for. -/
structure GeneratorChoices where
  /-- Whether the new foreign function interface is used. -/
  newFfi : Bool
  /-- The backend. -/
  backend : Backend
  /-- The number of bits above which arguments go by reference; 0 for never. -/
  constRef : Nat
  /-- Whether C++ is generated. -/
  cxx : Bool
  /-- Whether the state is split. -/
  splitState : Bool
  /-- The directory for the files. -/
  outputDir : String
  /-- What the names of the files start with. -/
  basename : String
  /-- The number of files for functions. -/
  files : Nat
  /-- Whether the code names the lines it comes from. -/
  lineInfo : Bool
deriving DecidableEq

namespace GeneratorChoices

/-- The argument for an option, if there is one. -/
def argument? (c : GeneratorChoices) : GeneratorOption → Option String
  | .newFfi => if c.newFfi then some "--new-ffi" else none
  | .runtime => some ("--runtime=" ++ c.backend.name)
  | .constRef => if 0 < c.constRef then some ("--const-ref=" ++ toString c.constRef) else none
  | .cxx => if c.cxx then some "--generate-cxx" else none
  | .splitState => if c.splitState then some "--split-state" else none
  | .outputDir => some ("--output-dir=" ++ c.outputDir)
  | .basename => some ("--basename=" ++ c.basename)
  | .files => some ("--num-c-files=" ++ toString c.files)
  | .lineInfo => some (if c.lineInfo then "--line-info" else "--no-line-info")

/-- The arguments for all options. -/
def arguments (c : GeneratorChoices) : List String := GeneratorOption.all.filterMap c.argument?

variable {c c' : GeneratorChoices}

/-- The argument for an option starts with a stem of the option. -/
lemma exists_stem_of_argument? {o : GeneratorOption} {a : String} (h : c.argument? o = some a) :
    ∃ stem ∈ o.stems, ∃ value, a = stem ++ value := by
  cases o <;> simp only [argument?, Option.ite_none_right_eq_some, Option.some.injEq] at h
  case newFfi | cxx | splitState => exact ⟨a, by simp [← h.2, GeneratorOption.stems], "", by simp⟩
  case constRef => exact ⟨_, List.mem_singleton_self _, _, h.2.symm⟩
  case runtime | outputDir | basename | files => exact ⟨_, List.mem_singleton_self _, _, h.symm⟩
  case lineInfo =>
    refine ⟨a, ?_, "", by simp⟩
    rw [← h]
    cases c.lineInfo <;> decide

/-- The argument for an option shows that it is for this option. -/
lemma accepts_of_argument? {o : GeneratorOption} {a : String} (h : c.argument? o = some a) :
    o.accepts a = true := by
  obtain ⟨stem, hstem, value, rfl⟩ := exists_stem_of_argument? h
  exact GeneratorOption.accepts_append hstem value

/-- The argument for an option is the one among all arguments that shows to be for it. -/
lemma argument?_eq_some_iff {o : GeneratorOption} {a : String} :
    c.argument? o = some a ↔ a ∈ c.arguments ∧ o.accepts a = true := by
  constructor
  · intro h
    exact ⟨List.mem_filterMap.2 ⟨o, o.mem_all, h⟩, accepts_of_argument? h⟩
  · rintro ⟨hmem, haccepts⟩
    obtain ⟨o', -, h⟩ := List.mem_filterMap.1 hmem
    rwa [GeneratorOption.eq_of_accepts haccepts (accepts_of_argument? h)]

/-- Every argument belongs to one option. -/
lemma existsUnique_option {a : String} (h : a ∈ c.arguments) :
    ∃! o : GeneratorOption, o.accepts a = true := by
  obtain ⟨o, -, ho⟩ := List.mem_filterMap.1 h
  have haccepts := accepts_of_argument? ho
  exact ⟨o, haccepts, fun o' ho' => GeneratorOption.eq_of_accepts ho' haccepts⟩

/-- **An option has at most one argument.**

**Proof sketch.** An argument for the option comes from this option, and the option is there once.
-/
theorem countP_arguments_le (o : GeneratorOption) : c.arguments.countP o.accepts ≤ 1 := by
  have hsame : ∀ o' ∈ GeneratorOption.all,
      ((c.argument? o').map o.accepts).getD false = true → (o' == o) = true := by
    intro o' _ h
    cases ha : c.argument? o' with
    | none => simp [ha] at h
    | some a =>
      have haccepts : o.accepts a = true := by simpa [ha] using h
      exact beq_iff_eq.2 (GeneratorOption.eq_of_accepts (accepts_of_argument? ha) haccepts)
  calc c.arguments.countP o.accepts
      = GeneratorOption.all.countP fun o' => ((c.argument? o').map o.accepts).getD false :=
        List.countP_filterMap
    _ ≤ GeneratorOption.all.count o := List.countP_mono_left hsame
    _ ≤ 1 := List.nodup_iff_count_le_one.1 GeneratorOption.nodup_all o

/-- An argument that is there if a condition holds tells whether it holds. -/
lemma eq_of_ite_eq {b b' : Bool} {a : String}
    (h : (if b then some a else none) = if b' then some a else none) : b = b' := by
  cases b <;> cases b' <;> simp_all

/-- **The arguments tell what the stage is made for.**

**Proof sketch.** The argument for each option can be told from the others
(`argument?_eq_some_iff`), and it tells what was chosen. -/
theorem arguments_injective : Function.Injective arguments := by
  intro c c' h
  have hargument (o : GeneratorOption) : c.argument? o = c'.argument? o :=
    Option.ext fun a => by rw [argument?_eq_some_iff, argument?_eq_some_iff, h]
  have hnewFfi : c.newFfi = c'.newFfi := eq_of_ite_eq (hargument .newFfi)
  have hcxx : c.cxx = c'.cxx := eq_of_ite_eq (hargument .cxx)
  have hsplit : c.splitState = c'.splitState := eq_of_ite_eq (hargument .splitState)
  have hvalue {stem value value' : String} (h : some (stem ++ value) = some (stem ++ value')) :
      value = value' :=
    (String.append_right_inj stem).1 (Option.some.inj h)
  have hbackend : c.backend = c'.backend :=
    Except.ok.inj ((Backend.ofName_eq_ok.2 rfl).symm.trans
      (Backend.ofName_eq_ok.2 (hvalue (hargument .runtime)).symm))
  have hdir : c.outputDir = c'.outputDir := hvalue (hargument .outputDir)
  have hname : c.basename = c'.basename := hvalue (hargument .basename)
  have hfiles : c.files = c'.files := Text.toString_injective (hvalue (hargument .files))
  have hline : c.lineInfo = c'.lineInfo := by
    have h := Option.some.inj (hargument .lineInfo)
    cases hc : c.lineInfo <;> cases hc' : c'.lineInfo <;> simp [hc, hc'] at h ⊢
  have hconst : c.constRef = c'.constRef := by
    have h := hargument .constRef
    simp only [argument?] at h
    split at h <;> split at h
    · exact Text.toString_injective (hvalue h)
    · cases h
    · cases h
    · omega
  cases c
  cases c'
  simp_all

/-- The arguments, one after the other. -/
lemma arguments_eq (c : GeneratorChoices) :
    c.arguments = Stage.option c.newFfi "--new-ffi" ++ ("--runtime=" ++ c.backend.name) ::
      (Stage.option (decide (0 < c.constRef)) ("--const-ref=" ++ toString c.constRef) ++
        (Stage.option c.cxx "--generate-cxx" ++ (Stage.option c.splitState "--split-state" ++
          ["--output-dir=" ++ c.outputDir, "--basename=" ++ c.basename,
            "--num-c-files=" ++ toString c.files,
            if c.lineInfo then "--line-info" else "--no-line-info"]))) := by
  have hoption (condition : Bool) (a : String) :
      (if condition then some a else none).toList = Stage.option condition a := by
    cases condition <;> rfl
  have hconst : (c.argument? .constRef).toList =
      Stage.option (decide (0 < c.constRef)) ("--const-ref=" ++ toString c.constRef) := by
    rw [← hoption, argument?]
    simp only [decide_eq_true_eq]
  simp only [arguments, List.filterMap_eq_flatMap_toList, GeneratorOption.all, List.flatMap_cons,
    List.flatMap_nil, hconst]
  simp only [argument?, hoption, Option.toList_some, List.cons_append, List.nil_append]

/-- Where arguments by reference need C++ and it is generated, the flag for it comes right after the
argument for them.

**Proof sketch.** There is one argument that starts like this (`countP_arguments_le`), and
`arguments_eq` shows what comes after it. -/
lemma constRef_followed (hcxx : 0 < c.constRef → c.cxx = true) {before after : List String}
    {a : String} (h : c.arguments = before ++ a :: after)
    (ha : "--const-ref=".toList <+: a.toList) : ∃ rest, after = "--generate-cxx" :: rest := by
  have haccepts : GeneratorOption.constRef.accepts a = true :=
    List.any_eq_true.2 ⟨_, List.mem_singleton_self _, List.isPrefixOf_iff_prefix.2 ha⟩
  have hargument : c.argument? .constRef = some a :=
    argument?_eq_some_iff.2 ⟨h ▸ List.mem_append_cons_self, haccepts⟩
  simp only [argument?, Option.ite_none_right_eq_some, Option.some.injEq] at hargument
  obtain ⟨hpos, rfl⟩ := hargument
  obtain ⟨front, rest, hall⟩ : ∃ front rest, c.arguments =
      front ++ ("--const-ref=" ++ toString c.constRef) :: "--generate-cxx" :: rest := by
    rw [arguments_eq, hcxx hpos, decide_eq_true hpos]
    exact ⟨Stage.option c.newFfi "--new-ffi" ++ ["--runtime=" ++ c.backend.name], _, by
      rw [List.append_assoc]
      rfl⟩
  -- no other argument is for this option, so the list can be cut there in one way only
  have hone := countP_arguments_le (c := c) .constRef
  rw [hall, List.countP_append, List.countP_cons_of_pos haccepts] at hone
  obtain ⟨hfront, hrest⟩ : front.countP GeneratorOption.constRef.accepts = 0 ∧
      ("--generate-cxx" :: rest).countP GeneratorOption.constRef.accepts = 0 := by
    omega
  rw [List.countP_eq_zero] at hfront hrest
  obtain ⟨-, -, rfl⟩ := (List.append_cons_inj_of_notMem (fun hmem => hfront _ hmem haccepts)
    fun hmem => hrest _ hmem haccepts).1 (hall.symm.trans h)
  exact ⟨rest, rfl⟩

end GeneratorChoices

namespace Settings

/-- What the stage that generates code into a directory is made for. -/
def generatorChoices (s : Settings) (dir : String) : GeneratorChoices :=
  ⟨s.newFfi || s.action.readsInputs, s.backend, s.constRef, s.cxx, s.splitState, dir, s.basename,
    s.effectiveFiles, s.lineInfo⟩

/-- The arguments of the stage that generates code are those for what it is made for. -/
lemma arguments_generatingStage (s : Settings) (dir : String) :
    (s.generatingStage dir).arguments = (s.generatorChoices dir).arguments := by
  rw [GeneratorChoices.arguments_eq, generatingStage, generatorArguments]
  simp only [List.append_assoc, List.singleton_append]
  rfl

/-- The stage that generates code tells what it is made for. -/
lemma generatingStage_eq_iff {s s' : Settings} {dir dir' : String} :
    s.generatingStage dir = s'.generatingStage dir' ↔
      s.generatorChoices dir = s'.generatorChoices dir' := by
  constructor
  · intro h
    refine GeneratorChoices.arguments_injective ?_
    rw [← arguments_generatingStage, ← arguments_generatingStage, h]
  · intro h
    have harguments : (s.generatingStage dir).arguments = (s'.generatingStage dir').arguments := by
      rw [arguments_generatingStage, arguments_generatingStage, h]
    exact congrArg (Stage.mk .generateC) harguments

/-- **The stage that generates code loses nothing of what it is made for.** A pipeline that
generates C or C++ has one such stage, and another pipeline has the same one exactly if it was built
for the same choices, whatever stands in the directory and the basename. Every argument belongs to
one option, no option has more than one, and arguments by reference are asked for together with C++.

**Proof sketch.** What the arguments start with tells their options apart, so they tell the choices
(`generatingStage_eq_iff`). Settings that ask for arguments by reference without C++ are refused.
-/
theorem generatingStage_exact (s : Settings) (dir : String) (p : Pipeline)
    (hp : s.pipelineInto dir = .ok p) (hshow : s.showFinal = false)
    (hinterpreter : s.backend ≠ .interpreter) (hmlir : s.backend ≠ .mlir) :
    ∃ t, p.stages.filter Stage.generatesC = [t] ∧
      (∀ (s' : Settings) (dir' : String) (p' : Pipeline), s'.pipelineInto dir' = .ok p' →
        s'.showFinal = false → s'.backend ≠ .interpreter → s'.backend ≠ .mlir →
          (p'.stages.filter Stage.generatesC = [t] ↔
            s'.generatorChoices dir' = s.generatorChoices dir)) ∧
      (∀ before a after, t.arguments = before ++ a :: after →
        "--const-ref=".toList <+: a.toList → ∃ rest, after = "--generate-cxx" :: rest) ∧
      (∀ a ∈ t.arguments, ∃! o : GeneratorOption, o.accepts a = true) ∧
      ∀ o : GeneratorOption, t.arguments.countP o.accepts ≤ 1 := by
  refine ⟨s.generatingStage dir, filter_generatesC hp hshow hinterpreter hmlir, ?_, ?_, ?_, ?_⟩
  · intro s' dir' p' hp' hshow' hinterpreter' hmlir'
    rw [filter_generatesC hp' hshow' hinterpreter' hmlir', List.singleton_inj]
    exact generatingStage_eq_iff
  · intro before a after h ha
    rw [arguments_generatingStage] at h
    refine GeneratorChoices.constRef_followed (fun hpos => ?_) h ha
    obtain ⟨hcheck, -⟩ := pipelineInto_eq_ok_iff.1 hp
    obtain ⟨hcxx, -⟩ := checkPipeline_eq_ok_iff.1 hcheck
    exact hcxx.resolve_left (Nat.pos_iff_ne_zero.1 hpos)
  · intro a ha
    rw [arguments_generatingStage] at ha
    exact GeneratorChoices.existsUnique_option ha
  · intro o
    rw [arguments_generatingStage]
    exact GeneratorChoices.countP_arguments_le o

/-- A basename and a directory that look like other arguments. -/
theorem generatingStage_exact_lookalike :
    ∃ p t, pipelineInto { backend := .ac, constRef := 128, basename := "x--generate-cxx" }
        "--basename=out" = .ok p ∧
      p.stages.filter Stage.generatesC = [t] ∧
      (∀ (s' : Settings) (dir' : String) (p' : Pipeline), s'.pipelineInto dir' = .ok p' →
        s'.showFinal = false → s'.backend ≠ .interpreter → s'.backend ≠ .mlir →
          p'.stages.filter Stage.generatesC = [t] → s'.constRef = 128 ∧ s'.cxx = true) ∧
      ∀ o : GeneratorOption, t.arguments.countP o.accepts ≤ 1 := by
  obtain ⟨p, hp⟩ : ∃ p, pipelineInto
      { backend := .ac, constRef := 128, basename := "x--generate-cxx" } "--basename=out" = .ok p :=
    ⟨_, rfl⟩
  obtain ⟨t, ht, hsame, -, -, hone⟩ :=
    generatingStage_exact _ _ p hp rfl (by decide) (by decide)
  refine ⟨p, t, hp, ht, fun s' dir' p' hp' hshow' hinterpreter' hmlir' ht' => ?_, hone⟩
  have hchoices := (hsame s' dir' p' hp' hshow' hinterpreter' hmlir').1 ht'
  exact ⟨congrArg GeneratorChoices.constRef hchoices, congrArg GeneratorChoices.cxx hchoices⟩

end Settings

end AslBuild
