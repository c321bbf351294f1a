import AslBuild.Proofs.Pipeline.Snapshots
set_option autoImplicit false

/-!
# The order of a pipeline

Which stage comes before which, for all settings. Many stages are there only for some settings, and
some directives come twice, so a stage has no fixed place. What can be said of its place is said by
cutting the stages in two at it: what comes before, and what comes after.

A full pipeline falls into parts that no option moves: desugaring, two rounds of specialising with a
filter in between, simplification, the widths of integers, the last filters, and the check.

## Main definitions

* `AslBuild.Directive.isFilter` — whether a directive removes definitions.
* `AslBuild.Pipeline.IsOrdered` — the order that the stages of a pipeline keep.

## Main results

* `AslBuild.Settings.transformations_eq` — the parts of a full pipeline.
* `AslBuild.Settings.leadingStages_bounding` — where integers get their width.
* `AslBuild.Settings.leadingStages_imports` — where the imports are filtered.
* `AslBuild.Settings.isOrdered_of_pipelineInto` — every pipeline keeps the order.
-/

namespace AslBuild

namespace Directive

/-- Whether a directive removes definitions. -/
def isFilter : Directive → Bool
  | .filterReachableFrom | .filterUnlistedFunctions | .filterListedVariables => true
  | _ => false

/-- The transformations are the directives that say so in their name. -/
lemma isTransform_iff_name {d : Directive} :
    d.isTransform = true ↔ "xform_".toList <+: d.name.toList := by
  cases d <;> decide

/-- The filters are the directives that say so in their name. -/
lemma isFilter_iff_name {d : Directive} :
    d.isFilter = true ↔ "filter_".toList <+: d.name.toList := by
  cases d <;> decide

/-- Directives that dump definitions or generate code neither transform nor filter, and they
check nothing. -/
lemma isTransform_of_final {d : Directive} (h : d = .dump ∨ d.isGenerator = true) :
    d.isTransform = false ∧ d.isFilter = false ∧ d ≠ .checkMonomorphization := by
  cases d <;> simp_all [isGenerator, isTransform, isFilter]

end Directive

/-- **The order that the stages of a pipeline keep.** The snapshots do not count, but `quit` is the
last stage with them as well. -/
structure Pipeline.IsOrdered (s : Settings) (p : Pipeline) : Prop where
  /-- What is not needed goes first. -/
  reachable_first : ∃ rest, p.withoutSnapshots =
    ⟨.filterReachableFrom, ["--keep-builtins", "exports"]⟩ :: rest
  /-- Nothing is transformed before that. -/
  reachable_before_transform : ∀ before t after, p.withoutSnapshots = before ++ t :: after →
    t.directive.isTransform = true → ∃ f ∈ before, f.directive = .filterReachableFrom
  /-- The last stage ends the script, and no other stage does. -/
  quit_last : ∃ body, p.withoutSnapshots = body ++ [⟨.quit, []⟩] ∧ ∀ t ∈ body, t.directive ≠ .quit
  /-- So it is with the snapshots. -/
  quit_last_with_snapshots : ∃ body, p.stages = body ++ [⟨.quit, []⟩] ∧
    ∀ t ∈ body, t.directive ≠ .quit
  /-- Right before that stands the only stage that generates code or dumps the definitions. It dumps
  them exactly if that was asked for. -/
  final_unique : ∃ body final, p.withoutSnapshots = body ++ [final, ⟨.quit, []⟩] ∧
    (final.directive = .dump ∨ final.directive.isGenerator = true) ∧
    (final.directive = .dump ↔ s.showFinal = true) ∧
    ∀ t ∈ body, t.directive ≠ .dump ∧ t.directive.isGenerator = false
  /-- Integers get their width once if that is asked for, and otherwise never. -/
  bounded_once : p.withoutSnapshots.countP (fun t => t.directive = .xformBounded) =
    if s.boundedInts then 1 else 0
  /-- Nothing is transformed after that. -/
  bounded_last : ∀ before t after, p.withoutSnapshots = before ++ t :: after →
    t.directive = .xformBounded → ∀ u ∈ after, u.directive.isTransform = false
  /-- What only the imports needed goes right after them. -/
  imports_followed : ∀ before after,
    p.withoutSnapshots = before ++ ⟨.filterUnlistedFunctions, ["imports"]⟩ :: after →
      ∃ rest, after = ⟨.filterReachableFrom, ["exports"]⟩ :: rest
  /-- A full pipeline specialises functions twice in the same way, with a filter in between. -/
  specialised_twice : s.minimal = false → ∃ arguments before between after,
    p.withoutSnapshots = before ++ ⟨.xformMonomorphize, arguments⟩ ::
      (between ++ ⟨.xformMonomorphize, arguments⟩ :: after) ∧
    (∃ f ∈ between, f.directive = .filterReachableFrom) ∧
    ∀ t ∈ before ++ between ++ after, t.directive ≠ .xformMonomorphize
  /-- In a full pipeline slices of integers are gone and unknown values are tracked when constants
  are propagated for the first time. -/
  prepared_before_constants : s.minimal = false → ∃ before t after,
    p.withoutSnapshots = before ++ t :: after ∧ t.directive = .xformConstprop ∧
    (∀ u ∈ before, u.directive ≠ .xformConstprop) ∧
    ∀ u ∈ after, u.directive ≠ .xformIntBitslices ∧ u.directive ≠ .xformValid
  /-- A full pipeline is checked once, right before the final stage, when nothing is transformed or
  filtered any more. -/
  checked_once : s.minimal = false → ∃ body check final,
    p.withoutSnapshots = body ++ [check, final, ⟨.quit, []⟩] ∧
    check.directive = .checkMonomorphization ∧
    (∀ t ∈ body ++ [final, ⟨.quit, []⟩], t.directive ≠ .checkMonomorphization) ∧
    ∀ t ∈ [final, ⟨.quit, []⟩], t.directive.isTransform = false ∧ t.directive.isFilter = false

namespace Settings

/-! ## The parts of a full pipeline -/

/-- The stages before constants are propagated for the first time. -/
def desugaring (s : Settings) : List Stage :=
  [keepReachable, ⟨.xformNamedType, []⟩, ⟨.xformDesugar, []⟩, ⟨.xformBittuples, []⟩,
      ⟨.xformLower, []⟩] ++
    Stage.given s.intSlices ⟨.xformIntBitslices, []⟩ ++ [⟨.xformGetset, []⟩] ++
    Stage.given s.trackUnknown ⟨.xformValid, ["track-valid"]⟩

/-- The stages after functions were specialised, up to the last time that constants are propagated.
-/
def simplification (s : Settings) : List Stage :=
  [⟨.xformTuples, []⟩, ⟨.xformGetset, []⟩, ⟨.xformBittuples, []⟩] ++
    Stage.given s.hoistLets ⟨.xformHoistLets, []⟩ ++
    [⟨.xformBitslices, Stage.option s.backend.hasBitSlices "--notransform"⟩, ⟨.xformCase, []⟩] ++
    Stage.given s.wrapVariables ⟨.xformWrap, []⟩ ++ [propagate]

/-- All stages of a full pipeline that rewrite definitions, but for the widths of integers.
Functions are specialised twice, because the first round brings calls to light that were not
specialised. -/
def rewriting (s : Settings) : List Stage :=
  s.desugaring ++ propagate :: s.specialise :: keepReachable :: s.specialise :: s.simplification

/-- The stage at which integers get their width, if they do. -/
def bounding (s : Settings) : List Stage := Stage.given s.boundedInts ⟨.xformBounded, []⟩

/-- The stage at which thread-local variables are removed, if they are. -/
def localFilter (s : Settings) : List Stage :=
  Stage.given s.removesThreadLocals ⟨.filterListedVariables, ["thread_local_state"]⟩

/-- The check at the end of a full pipeline. -/
def monomorphismCheck : Stage := ⟨.checkMonomorphization, ["--fatal", "--verbose"]⟩

/-- **The parts of a full pipeline.** -/
lemma transformations_eq (s : Settings) :
    s.transformations =
      s.rewriting ++ s.bounding ++ importFilters ++ s.localFilter ++ [monomorphismCheck] := by
  simp only [transformations, rewriting, desugaring, simplification, bounding, localFilter,
    monomorphismCheck, List.append_assoc, List.cons_append, List.nil_append]

/-- The stages of a full pipeline in front of its final stage. -/
lemma leadingStages_of_full {s : Settings} (h : s.minimal = false) :
    s.leadingStages =
      s.rewriting ++ s.bounding ++ importFilters ++ s.localFilter ++ [monomorphismCheck] := by
  rw [leadingStages, h, if_neg Bool.false_ne_true, transformations_eq]

/-- The stages of a minimal pipeline in front of its final stage. -/
lemma leadingStages_of_minimal {s : Settings} (h : s.minimal = true) :
    s.leadingStages = keepReachable :: importFilters ++ s.bounding := by
  rw [leadingStages, if_pos h, bounding]

/-- Before constants are propagated nothing is specialised. -/
lemma directive_of_mem_desugaring {s : Settings} : ∀ t ∈ s.desugaring,
    t.directive ≠ .xformConstprop ∧ t.directive ≠ .xformMonomorphize := by
  simp only [desugaring, List.forall_mem_append, List.forall_mem_cons, forall_mem_given]
  simp [keepReachable]

/-- After functions were specialised, that is not done again, and neither is what prepared it. -/
lemma directive_of_mem_simplification {s : Settings} : ∀ t ∈ s.simplification,
    t.directive ≠ .xformMonomorphize ∧ t.directive ≠ .xformIntBitslices ∧
      t.directive ≠ .xformValid := by
  simp only [simplification, List.forall_mem_append, List.forall_mem_cons, forall_mem_given]
  simp [propagate]

/-- While definitions are rewritten, integers get no width, no import is filtered and nothing is
checked. -/
lemma directive_of_mem_rewriting {s : Settings} : ∀ t ∈ s.rewriting,
    t.directive ≠ .xformBounded ∧ t.directive ≠ .filterUnlistedFunctions ∧
      t.directive ≠ .checkMonomorphization := by
  simp only [rewriting, desugaring, simplification, List.forall_mem_append, List.forall_mem_cons,
    forall_mem_given]
  simp [keepReachable, propagate, specialise]

/-- The only stage of its part gives integers their width. -/
lemma directive_of_mem_bounding {s : Settings} : ∀ t ∈ s.bounding, t.directive = .xformBounded := by
  simp [bounding]

/-- The last filters are filters. -/
lemma isFilter_of_mem_filters {s : Settings} :
    ∀ t ∈ importFilters ++ s.localFilter, t.directive.isFilter = true := by
  simp only [importFilters, localFilter, List.forall_mem_append, List.forall_mem_cons,
    forall_mem_given]
  simp [Directive.isFilter]

/-! ## Places in the stages in front of the final one -/

/-- The first stage keeps what is needed. -/
lemma leadingStages_head (s : Settings) : ∃ rest, s.leadingStages = keepReachable :: rest := by
  cases hm : s.minimal with
  | true => exact ⟨_, leadingStages_of_minimal hm⟩
  | false => exact ⟨_, leadingStages_of_full hm⟩

/-- **Where integers get their width**: nothing after that is transformed. -/
lemma leadingStages_bounding (s : Settings) :
    ∃ before after, s.leadingStages = before ++ s.bounding ++ after ∧
      (∀ t ∈ before, t.directive ≠ .xformBounded) ∧
      ∀ t ∈ after, t.directive.isTransform = false := by
  cases hm : s.minimal with
  | true =>
    refine ⟨keepReachable :: importFilters, [], ?_, ?_, by simp⟩
    · rw [leadingStages_of_minimal hm, List.append_nil]
    · simp [keepReachable, importFilters]
  | false =>
    refine ⟨s.rewriting, importFilters ++ s.localFilter ++ [monomorphismCheck], ?_,
      fun t ht => (directive_of_mem_rewriting t ht).1, ?_⟩
    · rw [leadingStages_of_full hm]
      simp only [List.append_assoc]
    · intro t ht
      rcases List.mem_append.1 ht with ht | ht
      · have hfilter := isFilter_of_mem_filters t ht
        cases hd : t.directive <;> simp_all [Directive.isFilter, Directive.isTransform]
      · rw [List.mem_singleton.1 ht]
        rfl

/-- **Where the imports are filtered.** -/
lemma leadingStages_imports (s : Settings) :
    ∃ before after, s.leadingStages = before ++ importFilters ++ after ∧
      (∀ t ∈ before, t.directive ≠ .filterUnlistedFunctions) ∧
      ∀ t ∈ after, t.directive ≠ .filterUnlistedFunctions := by
  have hbounding : ∀ t ∈ s.bounding, t.directive ≠ .filterUnlistedFunctions := fun t ht => by
    rw [directive_of_mem_bounding t ht]
    decide
  cases hm : s.minimal with
  | true =>
    refine ⟨[keepReachable], s.bounding, ?_, by simp [keepReachable], hbounding⟩
    rw [leadingStages_of_minimal hm]
    rfl
  | false =>
    refine ⟨s.rewriting ++ s.bounding, s.localFilter ++ [monomorphismCheck], ?_,
      List.forall_mem_append.2 ⟨fun t ht => (directive_of_mem_rewriting t ht).2.1, hbounding⟩, ?_⟩
    · rw [leadingStages_of_full hm]
      simp only [List.append_assoc]
    · refine List.forall_mem_append.2 ⟨?_, by simp [monomorphismCheck]⟩
      rw [localFilter, forall_mem_given]
      exact fun _ => by decide

/-! ## The order -/

section

variable {s : Settings} {dir : String} {p : Pipeline}

/-- How the stages of a pipeline end. The final stage is the only one that generates code or dumps
the definitions. -/
lemma withoutSnapshots_eq (h : s.pipelineInto dir = .ok p) :
    ∃ final, p.withoutSnapshots = s.leadingStages ++ [final, ⟨.quit, []⟩] ∧
      (final.directive = .dump ∨ final.directive.isGenerator = true) ∧
      (final.directive = .dump ↔ s.showFinal = true) := by
  obtain ⟨final, hfinal, -, hwithout⟩ := stages_of_pipelineInto h
  refine ⟨final, by rw [hwithout, List.append_assoc]; rfl, (directive_finalStage hfinal).2, ?_⟩
  rcases finalStage_eq_ok hfinal with ⟨hshow, rfl⟩ | ⟨hshow, g, -, ⟨-, rfl⟩ | ⟨-, rfl⟩⟩ <;>
    simp [hshow]

/-- Integers get their width once if that is asked for, and nothing is transformed after that. -/
lemma bounded_of_pipelineInto (h : s.pipelineInto dir = .ok p) :
    p.withoutSnapshots.countP (fun t => t.directive = .xformBounded) =
        (if s.boundedInts then 1 else 0) ∧
      ∀ before t after, p.withoutSnapshots = before ++ t :: after →
        t.directive = .xformBounded → ∀ u ∈ after, u.directive.isTransform = false := by
  obtain ⟨final, hstages, hfinal, -⟩ := withoutSnapshots_eq h
  obtain ⟨front, rest, hleading, hfront, hrest⟩ := s.leadingStages_bounding
  have hback : ∀ t ∈ rest ++ [final, ⟨.quit, []⟩], t.directive.isTransform = false := by
    rw [List.forall_mem_append, List.forall_mem_cons, List.forall_mem_singleton]
    exact ⟨hrest, (Directive.isTransform_of_final hfinal).1, rfl⟩
  have hnever : ∀ t ∈ rest ++ [final, ⟨.quit, []⟩], t.directive ≠ .xformBounded := by
    intro t ht hd
    have := hback t ht
    rw [hd] at this
    exact absurd this (by decide)
  rw [hstages, hleading, List.append_assoc, List.append_assoc]
  refine ⟨?_, fun before t after heq ht => ?_⟩
  · have hzero : ∀ l : List Stage, (∀ t ∈ l, t.directive ≠ .xformBounded) →
        l.countP (fun t => t.directive = .xformBounded) = 0 := by
      intro l hl
      exact List.countP_eq_zero.2 fun t ht => by simpa using hl t ht
    rw [List.countP_append, List.countP_append, hzero front hfront, hzero _ hnever, bounding]
    cases s.boundedInts <;> rfl
  · have hfront : t ∉ front := fun hin => hfront t hin ht
    have hback' : t ∉ rest ++ [final, ⟨.quit, []⟩] := fun hin => hnever t hin ht
    -- the stage can only be the one that was asked for, so what comes after it is known
    have hbounding : t ∈ s.bounding := by
      have hmem : t ∈ front ++ (s.bounding ++ (rest ++ [final, ⟨.quit, []⟩])) := by simp [heq]
      rw [List.mem_append, List.mem_append] at hmem
      exact (hmem.resolve_left hfront).resolve_right hback'
    cases hb : s.boundedInts with
    | false => simp [bounding, hb, Stage.given] at hbounding
    | true =>
      simp only [bounding, hb, Stage.given, if_true, List.singleton_append] at heq
      obtain ⟨-, -, rfl⟩ := (List.append_cons_inj_of_notMem hfront hback').1 heq
      exact hback

/-- What only the imports needed goes right after them. -/
lemma imports_of_pipelineInto (h : s.pipelineInto dir = .ok p) (before after : List Stage)
    (heq : p.withoutSnapshots = before ++ ⟨.filterUnlistedFunctions, ["imports"]⟩ :: after) :
    ∃ rest, after = ⟨.filterReachableFrom, ["exports"]⟩ :: rest := by
  obtain ⟨final, hstages, hfinal, -⟩ := withoutSnapshots_eq h
  obtain ⟨front, rest, hleading, hfront, hrest⟩ := s.leadingStages_imports
  have hback : ⟨.filterUnlistedFunctions, ["imports"]⟩ ∉
      (⟨.filterReachableFrom, ["exports"]⟩ : Stage) :: (rest ++ [final, ⟨.quit, []⟩]) := by
    intro hin
    rw [List.mem_cons, List.mem_append, List.mem_pair] at hin
    rcases hin with hin | hin | rfl | hin
    · exact absurd hin (by decide)
    · exact hrest _ hin rfl
    · exact absurd hfinal (by decide)
    · exact absurd hin (by decide)
  rw [hstages, hleading, List.append_assoc, List.append_assoc] at heq
  obtain ⟨-, -, rfl⟩ :=
    (List.append_cons_inj_of_notMem (fun hin => hfront _ hin rfl) hback).1 heq
  exact ⟨_, rfl⟩

/-- The stages of a full pipeline after its definitions were rewritten. -/
def ending (s : Settings) (final : Stage) : List Stage :=
  s.bounding ++ (importFilters ++ s.localFilter ++ [monomorphismCheck, final, ⟨.quit, []⟩])

/-- A full pipeline, cut at the places where constants are propagated for the first time and where
functions are specialised. -/
lemma withoutSnapshots_of_full (h : s.pipelineInto dir = .ok p) (hm : s.minimal = false) :
    ∃ final, p.withoutSnapshots = s.desugaring ++ propagate :: s.specialise :: keepReachable ::
        s.specialise :: (s.simplification ++ s.ending final) ∧
      (final.directive = .dump ∨ final.directive.isGenerator = true) := by
  obtain ⟨final, hstages, hfinal, -⟩ := withoutSnapshots_eq h
  refine ⟨final, ?_, hfinal⟩
  rw [hstages, leadingStages_of_full hm, rewriting, ending]
  simp only [List.append_assoc, List.cons_append, List.nil_append]

/-- What comes after the simplification of a full pipeline does not specialise, and neither does it
prepare for that. -/
lemma directive_of_mem_ending {final : Stage}
    (hfinal : final.directive = .dump ∨ final.directive.isGenerator = true) :
    ∀ t ∈ s.ending final, t.directive ≠ .xformMonomorphize ∧
      t.directive ≠ .xformIntBitslices ∧ t.directive ≠ .xformValid := by
  intro t ht
  have hd : t.directive = .xformBounded ∨ t.directive.isTransform = false := by
    rw [ending, List.mem_append, List.mem_append] at ht
    rcases ht with ht | ht | ht
    · exact Or.inl (directive_of_mem_bounding t ht)
    · have hfilter := isFilter_of_mem_filters t ht
      right
      cases hd : t.directive <;> simp_all [Directive.isFilter, Directive.isTransform]
    · right
      simp only [List.mem_cons, List.not_mem_nil, or_false] at ht
      rcases ht with rfl | rfl | rfl
      · rfl
      · exact (Directive.isTransform_of_final hfinal).1
      · rfl
  refine ⟨?_, ?_, ?_⟩ <;> rintro heq <;> rw [heq] at hd <;> exact absurd hd (by decide)

/-- A full pipeline specialises functions twice in the same way, with a filter in between. -/
lemma specialised_of_pipelineInto (h : s.pipelineInto dir = .ok p) (hm : s.minimal = false) :
    ∃ arguments before between after,
      p.withoutSnapshots = before ++ ⟨.xformMonomorphize, arguments⟩ ::
        (between ++ ⟨.xformMonomorphize, arguments⟩ :: after) ∧
      (∃ f ∈ between, f.directive = .filterReachableFrom) ∧
      ∀ t ∈ before ++ between ++ after, t.directive ≠ .xformMonomorphize := by
  obtain ⟨final, hstages, hfinal⟩ := withoutSnapshots_of_full h hm
  refine ⟨s.specialise.arguments, s.desugaring ++ [propagate], [keepReachable],
    s.simplification ++ s.ending final, ?_, ⟨keepReachable, by simp, rfl⟩, ?_⟩
  · rw [hstages, List.append_assoc]
    rfl
  · have hfirst : ∀ t ∈ s.desugaring, t.directive ≠ .xformMonomorphize := fun t ht =>
      (directive_of_mem_desugaring t ht).2
    have hsecond : ∀ t ∈ s.simplification, t.directive ≠ .xformMonomorphize := fun t ht =>
      (directive_of_mem_simplification t ht).1
    rw [List.forall_mem_append, List.forall_mem_append, List.forall_mem_append,
      List.forall_mem_append]
    exact ⟨⟨⟨hfirst, by simp [propagate]⟩, by simp [keepReachable]⟩, hsecond,
      fun t ht => (directive_of_mem_ending hfinal t ht).1⟩

/-- In a full pipeline slices of integers are gone and unknown values are tracked when constants are
propagated for the first time. -/
lemma prepared_of_pipelineInto (h : s.pipelineInto dir = .ok p) (hm : s.minimal = false) :
    ∃ before t after, p.withoutSnapshots = before ++ t :: after ∧ t.directive = .xformConstprop ∧
      (∀ u ∈ before, u.directive ≠ .xformConstprop) ∧
      ∀ u ∈ after, u.directive ≠ .xformIntBitslices ∧ u.directive ≠ .xformValid := by
  obtain ⟨final, hstages, hfinal⟩ := withoutSnapshots_of_full h hm
  refine ⟨s.desugaring, propagate, s.specialise :: keepReachable :: s.specialise ::
    (s.simplification ++ s.ending final), hstages, rfl,
    fun t ht => (directive_of_mem_desugaring t ht).1, ?_⟩
  rw [List.forall_mem_cons, List.forall_mem_cons, List.forall_mem_cons, List.forall_mem_append]
  exact ⟨by simp [specialise], by simp [keepReachable], by simp [specialise],
    fun t ht => (directive_of_mem_simplification t ht).2,
    fun t ht => (directive_of_mem_ending hfinal t ht).2⟩

/-- A full pipeline is checked once, right before the final stage. -/
lemma checked_of_pipelineInto (h : s.pipelineInto dir = .ok p) (hm : s.minimal = false) :
    ∃ body check final, p.withoutSnapshots = body ++ [check, final, ⟨.quit, []⟩] ∧
      check.directive = .checkMonomorphization ∧
      (∀ t ∈ body ++ [final, ⟨.quit, []⟩], t.directive ≠ .checkMonomorphization) ∧
      ∀ t ∈ [final, ⟨.quit, []⟩],
        t.directive.isTransform = false ∧ t.directive.isFilter = false := by
  obtain ⟨final, hstages, hfinal, -⟩ := withoutSnapshots_eq h
  obtain ⟨htransform, hfilter, hcheck⟩ := Directive.isTransform_of_final hfinal
  refine ⟨s.rewriting ++ s.bounding ++ (importFilters ++ s.localFilter), monomorphismCheck, final,
    ?_, rfl, ?_, ?_⟩
  · rw [hstages, leadingStages_of_full hm]
    simp only [List.append_assoc, List.cons_append, List.nil_append]
  · have hbounding : ∀ t ∈ s.bounding, t.directive ≠ .checkMonomorphization := fun t ht => by
      rw [directive_of_mem_bounding t ht]
      decide
    have hfilters : ∀ t ∈ importFilters ++ s.localFilter,
        t.directive ≠ .checkMonomorphization := by
      intro t ht heq
      have := isFilter_of_mem_filters t ht
      rw [heq] at this
      exact absurd this (by decide)
    rw [List.forall_mem_append, List.forall_mem_append, List.forall_mem_append,
      List.forall_mem_cons, List.forall_mem_singleton]
    exact ⟨⟨⟨fun t ht => (directive_of_mem_rewriting t ht).2.2, hbounding⟩, hfilters⟩, hcheck,
      by decide⟩
  · rw [List.forall_mem_cons, List.forall_mem_singleton]
    exact ⟨⟨htransform, hfilter⟩, rfl, rfl⟩

/-- With its snapshots, too, a pipeline ends with the only stage that ends the script. -/
lemma quit_of_pipelineInto (h : s.pipelineInto dir = .ok p) :
    ∃ body, p.stages = body ++ [⟨.quit, []⟩] ∧ ∀ t ∈ body, t.directive ≠ .quit := by
  obtain ⟨final, hfinal, hstages, -⟩ := stages_of_pipelineInto h
  have hbody : ∀ t ∈ s.leadingStages ++ [final], t.directive ≠ .quit := fun t ht =>
    (plain_of_finalStage hfinal t ht).2
  rw [hstages, withSnapshots]
  cases s.snapshots with
  | none => exact ⟨_, rfl, hbody⟩
  | some stem =>
    refine ⟨_, Stage.withSnapshotsFrom_append_quit hbody rfl 0, fun t ht => ?_⟩
    obtain ⟨⟨u, n⟩, hu, ht⟩ := List.mem_flatMap.1 ht
    rcases List.mem_pair.1 ht with rfl | rfl
    · exact hbody _ (List.fst_mem_of_mem_zipIdx hu)
    · simp [Stage.snapshot]

/-- **Every pipeline keeps the order**, for all settings and every directory that code is generated
into.

**Proof sketch.** All stages but the last two are known but for those that depend on an option
(`leadingStages_of_full`, `leadingStages_of_minimal`), and the last two dump or generate and end the
script (`withoutSnapshots_eq`). Where a stage is the only one of its kind, a cut at it has only one
place. -/
theorem isOrdered_of_pipelineInto (s : Settings) (dir : String) (p : Pipeline)
    (h : s.pipelineInto dir = .ok p) : p.IsOrdered s := by
  obtain ⟨final, hstages, hfinal, hshow⟩ := withoutSnapshots_eq h
  obtain ⟨rest, hhead⟩ := s.leadingStages_head
  have hbody : ∀ t ∈ s.leadingStages ++ [final], t.directive ≠ .quit := by
    rw [List.forall_mem_append, List.forall_mem_singleton]
    exact ⟨fun t ht => (directive_of_mem_leadingStages ht).2.1,
      fun hd => absurd (hd ▸ hfinal) (by decide)⟩
  refine
    { reachable_first := ⟨_, by rw [hstages, hhead]; rfl⟩
      reachable_before_transform := ?_
      quit_last := ⟨s.leadingStages ++ [final], by rw [hstages, List.append_cons], hbody⟩
      quit_last_with_snapshots := quit_of_pipelineInto h
      final_unique := ⟨s.leadingStages, final, hstages, hfinal, hshow, fun t ht => ?_⟩
      bounded_once := (bounded_of_pipelineInto h).1
      bounded_last := (bounded_of_pipelineInto h).2
      imports_followed := imports_of_pipelineInto h
      specialised_twice := specialised_of_pipelineInto h
      prepared_before_constants := prepared_of_pipelineInto h
      checked_once := checked_of_pipelineInto h }
  · intro before t after heq ht
    rw [hstages, hhead] at heq
    cases before with
    | nil =>
      obtain ⟨rfl, -⟩ := List.cons.inj heq
      exact absurd ht (by decide)
    | cons f before =>
      obtain ⟨rfl, -⟩ := List.cons.inj heq
      exact ⟨keepReachable, by simp, rfl⟩
  · obtain ⟨hdump, -, hgenerator⟩ := directive_of_mem_leadingStages ht
    exact ⟨hdump, hgenerator⟩

/-- A full pipeline with every optional stage and with snapshots. -/
theorem isOrdered_of_pipelineInto_full :
    ∃ p, pipelineInto
        { intSlices := true, trackUnknown := true, wrapVariables := true, boundedInts := true,
          splitThreadLocal := true, snapshots := some "log" } "out" = .ok p ∧
      p.IsOrdered
        { intSlices := true, trackUnknown := true, wrapVariables := true, boundedInts := true,
          splitThreadLocal := true, snapshots := some "log" } := by
  obtain ⟨p, hp⟩ : ∃ p, pipelineInto
      { intSlices := true, trackUnknown := true, wrapVariables := true, boundedInts := true,
        splitThreadLocal := true, snapshots := some "log" } "out" = .ok p := ⟨_, rfl⟩
  exact ⟨p, hp, isOrdered_of_pipelineInto _ _ p hp⟩

end

end Settings

end AslBuild
