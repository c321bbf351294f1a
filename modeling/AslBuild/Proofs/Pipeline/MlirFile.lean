import AslBuild.Proofs.Path.Components
import AslBuild.Proofs.Pipeline.Generation
import AslBuild.Workspace
import Mathlib.Data.List.DropRight
set_option autoImplicit false

/-!
# The file for MLIR

The file that MLIR goes to is named twice. A script names it by a text: the directory without the
slashes at its end, then one slash and the name, or the name alone if the directory has none. The
working directory names it by joining paths. The two texts differ where the directory ends in more
than one slash. The paths are the same in any case, step by step: the root does not get lost with
the slashes that are cut off, and an empty directory does not become the root.

## Main definitions

* `AslBuild.slashed` — a directory with just one slash at its end.
* `AslBuild.Pipeline.generators` — the stages that generate code.

## Main results

* `AslBuild.components_fileBelow` — a file below a directory is an entry of it.
* `AslBuild.fileBelow_eq_text_join_iff` — when its text is that of the joined path.
* `AslBuild.Settings.pipelineInto_mlirFile` — a script and a working directory name the same file.
-/

namespace AslBuild

open AslBuild.Path

variable {dir name : String}

/-! ## Slashes at the end of a directory -/

/-- A directory with just one slash at its end. -/
def slashed (dir : String) : Path :=
  ⟨String.ofList (dir.toList.rdropWhile (· == '/') ++ ['/'])⟩

/-- A directory is a text that does not end in a slash, and then its slashes. -/
lemma exists_slashes (dir : String) : ∃ front n, dir.toList = front ++ List.replicate n '/' ∧
    dir.toList.rdropWhile (· == '/') = front ∧ front.getLast? ≠ some '/' := by
  have hslashes : ∀ c ∈ dir.toList.rtakeWhile (· == '/'), c = '/' := by
    intro c hc
    simpa using List.mem_rtakeWhile_imp (p := (· == '/')) hc
  refine ⟨_, (dir.toList.rtakeWhile (· == '/')).length, ?_, rfl, fun hlast => ?_⟩
  · rw [← List.eq_replicate_of_mem hslashes, List.rdropWhile_append_rtakeWhile]
  · obtain ⟨front, hfront⟩ := List.getLast?_eq_some_iff.1 hlast
    have hnot := List.rdropWhile_last_not (· == '/') dir.toList (by simp [hfront])
    simp [hfront] at hnot

/-- A directory is the same with one slash at its end, unless it is empty.

**Proof sketch.** If there was no slash, one is added. If there were some, those behind the first
one are taken off. Neither adds a component or takes one away (`components_append_slashes`). -/
lemma components_slashed (hdir : dir ≠ "") : (slashed dir).components = components ⟨dir⟩ := by
  obtain ⟨front, n, hcut, hfront, -⟩ := exists_slashes dir
  have hdir' : dir = String.ofList (front ++ List.replicate n '/') := by
    rw [← hcut, String.ofList_toList]
  rw [slashed, hfront]
  cases n with
  | zero =>
    have hne : front ≠ [] := by
      rintro rfl
      exact hdir hdir'
    rw [hdir', List.replicate_zero, List.append_nil]
    exact components_append_slashes hne 1
  | succ n =>
    rw [hdir', List.replicate_succ, List.append_cons front '/' (List.replicate n '/')]
    exact (components_append_slashes (List.concat_ne_nil '/' front) n).symm

/-- The text of a file below a directory that is not empty. -/
lemma toList_fileBelow (hdir : dir ≠ "") (name : String) :
    (fileBelow dir name).toList = dir.toList.rdropWhile (· == '/') ++ '/' :: name.toList := by
  rw [fileBelow, if_neg (by simpa using hdir), String.toList_ofList]
  rfl

/-- A file below a directory that is not empty is joined to the directory with just one slash. -/
lemma fileBelow_eq_slashed (hdir : dir ≠ "") (hname : IsFileName name) :
    fileBelow dir name = ((slashed dir).join ⟨name⟩).text := by
  have hne : (slashed dir).text ≠ "" := by simp [slashed]
  rw [← String.toList_inj, toList_fileBelow hdir,
    toList_text_join (isAbsolute_fileName hname) hne, if_pos (by simp [slashed])]
  simp [slashed]

/-! ## Files below a directory -/

/-- **A file below a directory is an entry of it**, also if the directory is empty, the root, or
ends in any number of slashes. -/
theorem components_fileBelow (dir : String) (hname : IsFileName name) :
    components ⟨fileBelow dir name⟩ = components ⟨dir⟩ ++ [.name name] := by
  by_cases hdir : dir = ""
  · obtain rfl := hdir
    show components ⟨name⟩ = _
    rw [← components_join_fileName _ hname, join_of_empty rfl]
  · rw [fileBelow_eq_slashed hdir hname, ← components_slashed hdir]
    exact components_join_fileName (slashed dir) hname

/-- The text of a file below a directory is that of the joined path exactly if the directory does
not end in two slashes. -/
theorem fileBelow_eq_text_join_iff (hname : IsFileName name) :
    fileBelow dir name = (join ⟨dir⟩ ⟨name⟩).text ↔ ¬ ['/', '/'] <:+ dir.toList := by
  by_cases hdir : dir = ""
  · obtain rfl := hdir
    rw [join_of_empty rfl]
    exact iff_of_true rfl (by decide)
  obtain ⟨front, n, hcut, hfront, hlast⟩ := exists_slashes dir
  rw [← String.toList_inj, toList_fileBelow hdir, hfront,
    toList_text_join (isAbsolute_fileName hname) hdir, hcut]
  -- joining puts a slash behind a directory without one and otherwise keeps all that are there
  match n with
  | 0 =>
    rw [List.replicate_zero, List.append_nil, if_neg hlast]
    refine iff_of_true rfl fun ⟨rest, hrest⟩ => hlast ?_
    rw [← hrest, List.getLast?_append]
    rfl
  | 1 =>
    rw [if_pos (by simp)]
    refine iff_of_true (by simp) fun ⟨rest, hrest⟩ => hlast ?_
    have hrest : (rest ++ ['/']) ++ ['/'] = front ++ ['/'] := by simpa using hrest
    rw [← List.append_cancel_right hrest, List.getLast?_concat]
  | n + 2 =>
    rw [if_pos (by simp [List.getLast?_replicate])]
    refine iff_of_false (fun heq => ?_) (not_not.2 ⟨front ++ List.replicate n '/', ?_⟩)
    · have hlength := congrArg List.length heq
      simp only [List.length_append, List.length_cons, List.length_replicate] at hlength
      omega
    · rw [List.append_assoc, List.replicate_add]
      rfl

/-! ## The stage that generates MLIR -/

/-- MLIR is generated for the backend of that name only, and without flags. -/
lemma Backend.generator_eq_mlir_iff {b : Backend} {flags : List String} :
    b.generator = .ok ⟨.mlir, flags⟩ ↔ b = .mlir ∧ flags = [] := by
  cases b <;> simp [Backend.generator, eq_comm]

/-- The stages that generate code. -/
def Pipeline.generators (p : Pipeline) : List Stage :=
  p.stages.filter fun t => t.directive.isGenerator

namespace Settings

variable {s : Settings} {p : Pipeline} {t : Stage}

/-- **A stage that generates MLIR** is the only one that generates code, and is told nothing but
which file to write. -/
lemma arguments_of_generateMlir (hp : s.pipelineInto dir = .ok p) (ht : t ∈ p.stages)
    (hgenerates : t.directive = .generateMlir) :
    s.showFinal = false ∧ s.backend = .mlir ∧ p.generators = [t] ∧
      t.arguments = ["--output-file=" ++ fileBelow dir "asl.mlir"] := by
  have hgenerator : t.directive.isGenerator = true := by rw [hgenerates]; rfl
  obtain ⟨final, hfinal, hgenerators⟩ := filter_of_isGenerator (fun _ h => h) hp
  have hmem : t ∈ p.generators := List.mem_filter.2 ⟨ht, hgenerator⟩
  rw [Pipeline.generators, hgenerators, List.mem_filter, List.mem_singleton] at hmem
  obtain ⟨rfl, -⟩ := hmem
  rw [List.filter_singleton, hgenerator] at hgenerators
  rcases finalStage_eq_ok hfinal with
    ⟨-, rfl⟩ | ⟨hshow, ⟨output, flags⟩, hg, ⟨-, rfl⟩ | ⟨rfl, rfl⟩⟩
  · cases hgenerates
  · cases hgenerates
  · obtain ⟨hbackend, rfl⟩ := Backend.generator_eq_mlir_iff.1 hg
    exact ⟨hshow, hbackend, hgenerators, rfl⟩

/-- For the backend of that name there is a pipeline that generates MLIR, unless a rule refuses the
settings or the directory has a blank. -/
lemma exists_generateMlir (hcheck : s.checkPipeline = .ok ()) (hdir : Text.hasBlank dir = false)
    (hshow : s.showFinal = false) (hbackend : s.backend = .mlir) :
    ∃ p, s.pipelineInto dir = .ok p ∧ ∃ t ∈ p.stages, t.directive = .generateMlir := by
  have hfinal : s.finalStage dir s.effectiveFiles =
      .ok ⟨.generateMlir, ["--output-file=" ++ fileBelow dir "asl.mlir"]⟩ := by
    rw [finalStage, hshow, hbackend]
    rfl
  obtain ⟨p, hp⟩ : ∃ p, s.pipelineInto dir = .ok p :=
    ⟨_, pipelineInto_eq_ok_iff.2 ⟨hcheck, hdir, _, hfinal, rfl⟩⟩
  obtain ⟨final, hfinal', hgenerators⟩ := filter_of_isGenerator (fun _ h => h) hp
  have heq := Except.ok.inj (hfinal'.symm.trans hfinal)
  have hmem : final ∈ p.generators := by
    rw [Pipeline.generators, hgenerators, heq]
    exact List.mem_singleton_self _
  exact ⟨p, hp, final, (List.mem_filter.1 hmem).1, by rw [heq]⟩

/-! ## The file of a script -/

/-- **A script and a working directory name the same file for MLIR**, whatever the directory is:
empty, the root, absolute or relative, with any number of slashes at its end. For the backend of
that name a pipeline is built for every directory without a blank, unless a rule refuses the
settings. One of its stages generates code, and is told nothing but the file. Step by step this is
the file for MLIR of a working directory in the same place, an entry of the directory. To the letter
it is the same exactly if the directory does not end in two slashes.

**Proof sketch.** With one slash at its end a directory has the same components, and a text behind
this slash is joined to it (`components_fileBelow`). The final stage is the only one that generates
code (`arguments_of_generateMlir`). -/
theorem pipelineInto_mlirFile (s : Settings) (dir : String) (w : Workspace)
    (hw : w.path = ⟨dir⟩) :
    ((∃ p, s.pipelineInto dir = .ok p ∧ ∃ t ∈ p.stages, t.directive = .generateMlir) ↔
      s.checkPipeline = .ok () ∧ Text.hasBlank dir = false ∧ s.showFinal = false ∧
        s.backend = .mlir) ∧
    ∀ p, s.pipelineInto dir = .ok p → ∀ t ∈ p.stages, t.directive = .generateMlir →
      p.generators = [t] ∧
      ∃ file : Path, t.arguments = ["--output-file=" ++ file.text] ∧
        file.components = w.mlirFile.components ∧
        file.components = components ⟨dir⟩ ++ [.name "asl.mlir"] ∧
        (file = w.mlirFile ↔ ¬ ['/', '/'] <:+ dir.toList) := by
  have hname : IsFileName "asl.mlir" := by decide
  refine ⟨⟨?_, ?_⟩, fun p hp t ht hgenerates => ?_⟩
  · rintro ⟨p, hp, t, ht, hgenerates⟩
    obtain ⟨hcheck, hdir, -⟩ := pipelineInto_eq_ok_iff.1 hp
    obtain ⟨hshow, hbackend, -⟩ := arguments_of_generateMlir hp ht hgenerates
    exact ⟨hcheck, hdir, hshow, hbackend⟩
  · rintro ⟨hcheck, hdir, hshow, hbackend⟩
    exact exists_generateMlir hcheck hdir hshow hbackend
  · obtain ⟨-, -, hone, harguments⟩ := arguments_of_generateMlir hp ht hgenerates
    have hcomponents := components_fileBelow dir hname
    refine ⟨hone, ⟨fileBelow dir "asl.mlir"⟩, harguments, ?_, hcomponents, ?_⟩
    · rw [hcomponents, Workspace.mlirFile, hw, components_join_fileName _ hname]
    · rw [Workspace.mlirFile, hw, ← fileBelow_eq_text_join_iff hname, Path.mk.injEq]

/-- The root, written with two slashes. -/
theorem pipelineInto_mlirFile_root :
    let w : Workspace := { path := ⟨"//"⟩, origin := .given ⟨"//"⟩, keep := true }
    ∃ p t, pipelineInto { backend := .mlir } "//" = .ok p ∧
      p.generators = [t] ∧
      ∃ file : Path, t = ⟨.generateMlir, ["--output-file=" ++ file.text]⟩ ∧
        file.components = [.root, .name "asl.mlir"] ∧
        file.components = w.mlirFile.components ∧ file ≠ w.mlirFile := by
  intro w
  have hmlir := pipelineInto_mlirFile { backend := .mlir } "//" w rfl
  obtain ⟨p, hp, t, ht, hgenerates⟩ := hmlir.1.2 ⟨by decide, by decide, rfl, rfl⟩
  obtain ⟨hone, file, harguments, hsame, hcomponents, hletter⟩ := hmlir.2 p hp t ht hgenerates
  refine ⟨p, t, hp, hone, file, ?_, hcomponents, hsame, ?_⟩
  · rw [← harguments, ← hgenerates]
  · rw [Ne, hletter, not_not]
    exact List.suffix_refl _

end Settings

end AslBuild
