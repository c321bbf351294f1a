import AslBuild.Proofs.Path.Components
import AslBuild.Settings
import AslBuild.Workspace
import Mathlib.Data.List.Nodup
set_option autoImplicit false

/-!
# The files of a working directory

A session names seven files after its working directory: three have fixed names, and four have names
that start with the basename. All of them are joined to the path of the directory, so where they lie
depends on what the basename is: a plain name makes them different entries of the directory, and
anything else may lead out of it. Further sources are compiled to object files in the same
directory, whose names keep nothing of a source but the stem of its name.

## Main definitions

* `AslBuild.Path.IsEntryOf` — a path names an entry of a directory.
* `AslBuild.Workspace.sessionFiles` — the files of a session.
* `AslBuild.Workspace.Separate` — they are different entries of the working directory.
* `AslBuild.Workspace.objectStem` — what an object file keeps of the name of its source.
* `AslBuild.Workspace.ProgramIsAt` — the basename leads to an entry of the working directory.

## Main results

* `AslBuild.Workspace.separate_iff` — the basenames for which the files are separate.
* `AslBuild.Workspace.exists_accepted_not_separate` — basenames that keep the rules for a session
  but for which the files are not separate.
* `AslBuild.Workspace.components_objectFile_inj` — sources with the same object file.
* `AslBuild.Workspace.objectFile_confined` — object files are entries of the working directory.
* `AslBuild.Workspace.objectFile_ne_file`, `AslBuild.Workspace.executable_eq_objectFile_iff` —
  object files among the other files of a session.
-/

namespace AslBuild

namespace Path

/-- A path names an entry of a directory: it leads one step further, to a name, and its parent is
the directory. -/
structure IsEntryOf (p dir : Path) : Prop where
  /-- The last step is a name. -/
  name : ∃ n, p.components = dir.components ++ [.name n]
  /-- The parent is the directory. -/
  parent : ∃ q, p.parent? = some q ∧ q.components = dir.components

/-- A path that leads one step further, to a name, names an entry. -/
lemma isEntryOf_of_components {p dir : Path} {n : String}
    (h : p.components = dir.components ++ [.name n]) : p.IsEntryOf dir := by
  obtain ⟨q, hq⟩ := exists_parent?_of_components h (by simp)
  refine ⟨⟨n, h⟩, q, hq, ?_⟩
  rw [components_of_parent? hq, h, List.dropLast_concat]

end Path

namespace Workspace

open AslBuild.Path

/-! ## The files of a session -/

/-- The names that do not depend on the basename: those of the script, the symbol file and the
generated MLIR. -/
def fixedNames : List String := ["asl2c.prj", "config.json", "asl.mlir"]

/-- What the name of a generated source has behind the basename. -/
def sourceEnding (part : String) (cxx : Bool) : String := "_" ++ part ++ "." ++ sourceSuffix cxx

/-- The names of the files of a session. -/
def sessionNames (basename : String) (cxx : Bool) : List String :=
  fixedNames ++ sourceParts.map (fun part => basename ++ sourceEnding part cxx) ++ [basename]

/-- The files of a session: script, symbol file, MLIR, sources and executable. -/
def sessionFiles (w : Workspace) (basename : String) (cxx : Bool) : List Path :=
  [w.projectFile, w.symbolFile, w.mlirFile] ++ w.sourceFiles basename cxx ++ [w.executable basename]

/-- The files of a session are different entries of its working directory. -/
structure Separate (w : Workspace) (basename : String) (cxx : Bool) : Prop where
  /-- No two of them lead the same way. -/
  distinct : ((w.sessionFiles basename cxx).map Path.components).Nodup
  /-- Each of them is an entry of the directory. -/
  confined : ∀ file ∈ w.sessionFiles basename cxx, file.IsEntryOf w.path

variable {basename part : String} {cxx : Bool}

/-- The name of a generated source. -/
lemma sourceName_eq (basename part : String) (cxx : Bool) :
    basename ++ "_" ++ part ++ "." ++ sourceSuffix cxx = basename ++ sourceEnding part cxx := by
  simp only [sourceEnding, String.append_assoc]

/-- The generated sources have the names of the session. -/
lemma sourceFiles_eq (w : Workspace) (basename : String) (cxx : Bool) :
    w.sourceFiles basename cxx =
      sourceParts.map fun part => w.path.join ⟨basename ++ sourceEnding part cxx⟩ := by
  simp only [sourceFiles, sourceName_eq]

/-- The files of a session have the names of the session. -/
lemma sessionFiles_eq (w : Workspace) (basename : String) (cxx : Bool) :
    w.sessionFiles basename cxx = (sessionNames basename cxx).map fun n => w.path.join ⟨n⟩ := by
  rw [sessionFiles, sourceFiles_eq, sessionNames, List.map_append, List.map_append, List.map_map]
  rfl

/-! ## Names -/

/-- Every fixed name is plain. -/
lemma isFileName_of_mem_fixedNames : ∀ n ∈ fixedNames, IsFileName n := by decide

/-- There is no slash in what a source has behind the basename. -/
lemma slash_not_mem_sourceEnding :
    ∀ part ∈ sourceParts, ∀ cxx, '/' ∉ (sourceEnding part cxx).toList := by
  decide

/-- A source has a letter behind the basename. -/
lemma exists_mem_sourceEnding (part : String) (cxx : Bool) :
    ∃ c ∈ (sourceEnding part cxx).toList, c ≠ '/' ∧ c ≠ '.' := by
  refine ⟨'_', ?_, by decide, by decide⟩
  simp [sourceEnding]

/-- The last letter of a source. -/
lemma getLast?_sourceEnding (n part : String) (cxx : Bool) :
    (n ++ sourceEnding part cxx).toList.getLast? = some (if cxx then 'p' else 'c') := by
  cases cxx <;> simp [sourceEnding, sourceSuffix, List.getLast?_append, List.getLast?_cons]

/-- If the basename is a plain name, all names of the session are. -/
lemma isFileName_of_mem_sessionNames (h : IsFileName basename) :
    ∀ n ∈ sessionNames basename cxx, IsFileName n := by
  intro n hn
  rcases List.mem_append.1 hn with hn | hn
  · rcases List.mem_append.1 hn with hn | hn
    · exact isFileName_of_mem_fixedNames n hn
    · obtain ⟨part, hpart, rfl⟩ := List.mem_map.1 hn
      obtain ⟨c, hc, -, hdot⟩ := exists_mem_sourceEnding part cxx
      exact isFileName_append h.2.2.2 (slash_not_mem_sourceEnding part hpart cxx) ⟨c, hc, hdot⟩
  · rwa [List.mem_singleton.1 hn]

/-- The names of the sources differ from each other. -/
lemma nodup_sourceNames (basename : String) (cxx : Bool) :
    (sourceParts.map fun part => basename ++ sourceEnding part cxx).Nodup := by
  refine List.Nodup.map ?_ (by decide)
  intro part part' heq
  have htail : sourceEnding part cxx = sourceEnding part' cxx := by simpa using heq
  simpa [sourceEnding] using htail

/-- A source differs in its last letter from the files with fixed names. -/
lemma sourceName_not_mem_fixedNames (basename part : String) (cxx : Bool) :
    basename ++ sourceEnding part cxx ∉ fixedNames := by
  intro hmem
  have hlast : ∀ n ∈ fixedNames, ∀ cxx : Bool,
      n.toList.getLast? ≠ some (if cxx then 'p' else 'c') := by decide
  exact hlast _ hmem cxx (getLast?_sourceEnding basename part cxx)

/-- A source has a longer name than the executable. -/
lemma sourceName_ne_basename (basename part : String) (cxx : Bool) :
    basename ++ sourceEnding part cxx ≠ basename := by
  intro heq
  have hlength := congrArg String.length heq
  rw [String.length_append] at hlength
  simp [sourceEnding] at hlength

/-- The names of a session are different if the basename is none of the fixed names. -/
lemma nodup_sessionNames (h : basename ∉ fixedNames) : (sessionNames basename cxx).Nodup := by
  refine List.Nodup.append (List.Nodup.append (by decide) (nodup_sourceNames basename cxx) ?_)
    (List.nodup_singleton _) ?_
  · intro n hfixed hsource
    obtain ⟨part, -, rfl⟩ := List.mem_map.1 hsource
    exact sourceName_not_mem_fixedNames basename part cxx hfixed
  · intro n hn hbase
    rw [List.mem_singleton.1 hbase] at hn
    rcases List.mem_append.1 hn with hfixed | hsource
    · exact h hfixed
    · obtain ⟨part, -, heq⟩ := List.mem_map.1 hsource
      exact sourceName_ne_basename basename part cxx heq

/-! ## Separate files -/

/-- If the names are plain and differ, the files are separate. -/
lemma separate_of_names {w : Workspace} (hplain : IsFileName basename)
    (hfixed : basename ∉ fixedNames) : w.Separate basename cxx := by
  have hcomponents : ∀ n ∈ sessionNames basename cxx,
      (w.path.join ⟨n⟩).components = w.path.components ++ [.name n] :=
    fun n hn => components_join_fileName w.path (isFileName_of_mem_sessionNames hplain n hn)
  constructor
  · rw [sessionFiles_eq, List.map_map]
    refine List.Nodup.map_on ?_ (nodup_sessionNames hfixed)
    intro n hn n' hn' heq
    have heq : w.path.components ++ [.name n] = w.path.components ++ [.name n'] :=
      (hcomponents n hn).symm.trans (heq.trans (hcomponents n' hn'))
    simpa using heq
  · intro file hfile
    rw [sessionFiles_eq] at hfile
    obtain ⟨n, hn, rfl⟩ := List.mem_map.1 hfile
    exact isEntryOf_of_components (hcomponents n hn)

/-- In the directory that the empty path stands for, a file that is an entry is one step. -/
lemma components_of_confined {w : Workspace} (hw : w.path = ⟨""⟩) {n : String}
    (h : (w.path.join ⟨n⟩).IsEntryOf w.path) : ∃ m, components ⟨n⟩ = [.name m] := by
  obtain ⟨m, hm⟩ := h.name
  rw [hw, join_of_empty rfl] at hm
  exact ⟨m, hm⟩

/-- If the files are separate in every working directory, the basename is a plain name. -/
lemma isFileName_of_separate (h : ∀ w : Workspace, w.Separate basename false) :
    IsFileName basename := by
  let w : Workspace := { path := ⟨""⟩, origin := .given ⟨""⟩, keep := false }
  have hconfined : ∀ n ∈ sessionNames basename false, ∃ m, components ⟨n⟩ = [.name m] := by
    intro n hn
    refine components_of_confined (w := w) rfl ((h w).confined _ ?_)
    rw [sessionFiles_eq]
    exact List.mem_map_of_mem hn
  obtain ⟨m, hm⟩ := hconfined basename (by simp [sessionNames])
  obtain ⟨m', hm'⟩ := hconfined (basename ++ sourceEnding "vars" false)
    (by simp [sessionNames, sourceParts])
  exact isFileName_of_components hm (exists_mem_sourceEnding "vars" false) hm'

/-- If the files are separate, the basename is none of the fixed names. -/
lemma not_mem_fixedNames_of_separate {w : Workspace} (h : w.Separate basename cxx) :
    basename ∉ fixedNames := by
  intro hmem
  have hnodup := h.distinct
  rw [sessionFiles_eq, List.map_map] at hnodup
  have hnodup := hnodup.of_map
  rw [sessionNames, List.nodup_append] at hnodup
  exact hnodup.2.2 basename (List.mem_append_left _ hmem) basename (by simp) rfl

/-- **The files of a session are separate** in every working directory, for C and for C++, exactly
if the basename is a plain name and none of the three fixed ones. Then the seven files are different
entries of the directory, and nothing that is written to one of them lies outside of it or in
another one.

**Proof sketch.** All names of the session are plain if the basename is, and differ if it is none of
the fixed ones: a source ends in another letter than these, and is longer than the basename. The
other way round, look at the directory that the empty path stands for, in which the components of a
file are those of its name. The basename has just one of them, and with the rest of the name of a
source behind it there is still just one, so it holds no slash. -/
theorem separate_iff (basename : String) :
    (∀ (w : Workspace) (cxx : Bool), w.Separate basename cxx) ↔
      IsFileName basename ∧ basename ∉ fixedNames := by
  constructor
  · intro h
    let w : Workspace := { path := ⟨""⟩, origin := .given ⟨""⟩, keep := false }
    exact ⟨isFileName_of_separate fun w => h w false, not_mem_fixedNames_of_separate (h w false)⟩
  · rintro ⟨hplain, hfixed⟩ w cxx
    exact separate_of_names hplain hfixed

/-- **The rules for a session accept basenames for which the files are not separate**: with one the
executable is the symbol file, with another one it lies outside of the working directory. -/
theorem exists_accepted_not_separate :
    ∃ (shared outside : Settings) (inputs : List Path) (w : Workspace),
      shared.checkSession inputs = .ok () ∧ w.executable shared.basename = w.symbolFile ∧
        outside.checkSession inputs = .ok () ∧
          (w.executable outside.basename).components =
            w.path.components ++ [.up, .name "out"] ∧
            ¬ (w.executable outside.basename).IsEntryOf w.path := by
  let w : Workspace := { path := ⟨"w"⟩, origin := .given ⟨"w"⟩, keep := false }
  have hdir : w.path.components = [.name "w"] := by decide
  have hprogram : (w.executable "../out").components = w.path.components ++ [.up, .name "out"] := by
    decide
  refine ⟨{ action := .build, basename := "config.json" },
    { action := .build, basename := "../out" }, ["spec.asl"], w, rfl, rfl, rfl, hprogram, ?_⟩
  rintro ⟨⟨n, hn⟩, -⟩
  have hlength := congrArg List.length (hprogram.symm.trans hn)
  rw [hdir] at hlength
  exact absurd hlength (by simp)

/-! ## Object files -/

/-- What an object file keeps of the name of its source: the stem, or a fixed text if the source has
no name. -/
def objectStem (source : Path) : String := source.fileStem?.getD "extra"

/-- A stem consists of characters of the name. -/
lemma stemChars_subset (name : List Char) : stemChars name ⊆ name := by
  unfold stemChars
  split
  · exact List.Subset.refl name
  · intro c hc
    have hmem : c ∈ name.reverse.dropWhile (· != '.') :=
      List.mem_of_mem_tail (List.mem_reverse.1 hc)
    exact List.mem_reverse.1 ((List.dropWhile_suffix _).subset hmem)

/-- There is no slash in what an object file keeps of its source. -/
lemma slash_not_mem_objectStem (source : Path) : '/' ∉ (objectStem source).toList := by
  unfold objectStem fileStem? fileName?
  cases hlast : source.pieces.getLast? with
  | none => simp
  | some piece =>
    have hmem := (dropFillers_isPrefix _).subset (List.mem_of_getLast? hlast)
    have hslash : '/' ∉ piece := fun h => absurd (Text.mem_pieces hmem '/' h) (by simp)
    by_cases hup : piece = ['.', '.']
    · simp [hup]
    · simpa [hup] using fun h => hslash (stemChars_subset _ h)

/-- **An object file is an entry of the working directory** whose name is the stem of the source
with `.o` behind it. -/
theorem components_objectFile (w : Workspace) (source : Path) :
    (w.objectFile source).components = w.path.components ++ [.name (objectStem source ++ ".o")] :=
  components_join_fileName w.path
    (isFileName_append (slash_not_mem_objectStem source) (by decide) ⟨'o', by decide, by decide⟩)

/-- **Two sources have the same object file** exactly if they agree in what an object file keeps of
them. -/
theorem components_objectFile_inj {w : Workspace} {source source' : Path} :
    (w.objectFile source).components = (w.objectFile source').components ↔
      objectStem source = objectStem source' := by
  rw [components_objectFile, components_objectFile]
  simp

/-- Sources that agree in what an object file keeps of them have the same object file to the letter,
and the other way round. -/
lemma objectFile_inj {w : Workspace} {source source' : Path} :
    w.objectFile source = w.objectFile source' ↔ objectStem source = objectStem source' := by
  constructor
  · intro h
    exact components_objectFile_inj.1 (congrArg Path.components h)
  · intro h
    exact congrArg (fun stem => w.path.join ⟨stem ++ ".o"⟩) h

/-- **Object files stay in the working directory.** Whatever the path of a source is, its parent is
the working directory and its file name is a stem with `.o` behind it. The stem is that of the file
name of the source if there is one: the part in front of the last dot, unless that is empty, and the
whole name otherwise. If the source has no file name the stem is a fixed text. Two sources have the
same object file, to the letter or by the way it leads, exactly if their stems agree.

**Proof sketch.** A stem has no slash, so with a dot and a letter behind it it is a plain name, and
a plain name below a directory is an entry of it (`components_objectFile`). -/
theorem objectFile_confined (w : Workspace) (source : Path) :
    let stem := source.fileStem?.getD "extra"
    (∃ dir, (w.objectFile source).parent? = some dir ∧ dir.components = w.path.components) ∧
      (w.objectFile source).fileName? = some (stem ++ ".o") ∧
      (∀ n, source.fileName? = some n → IsStem n stem) ∧
      (source.fileName? = none → stem = "extra") ∧
      ∀ source' : Path,
        (w.objectFile source = w.objectFile source' ↔ stem = source'.fileStem?.getD "extra") ∧
        ((w.objectFile source).components = (w.objectFile source').components ↔
          stem = source'.fileStem?.getD "extra") := by
  intro stem
  have hcomponents := components_objectFile w source
  obtain ⟨dir, hparent, hdir⟩ := (isEntryOf_of_components hcomponents).parent
  refine ⟨⟨dir, hparent, hdir⟩, ?_, fun n hn => ?_, fun hnone => ?_,
    fun source' => ⟨objectFile_inj, components_objectFile_inj⟩⟩
  · rw [fileName?_eq_some_iff, hcomponents, List.getLast?_concat]
    rfl
  · obtain ⟨stem', hstem⟩ : ∃ stem', source.fileStem? = some stem' := by
      rw [fileStem?, hn]
      exact ⟨_, rfl⟩
    obtain ⟨n', hn', hisStem⟩ := fileStem?_eq_some_iff.1 hstem
    obtain rfl : n' = n := Option.some.inj (hn'.symm.trans hn)
    rwa [show stem = stem' by simp only [stem, hstem, Option.getD_some]]
  · simp only [stem, fileStem?_eq_none_iff.2 hnone, Option.getD_none]

/-- Two paths differ if their texts end in different letters. -/
lemma components_ne_of_getLast? {w : Workspace} {source : Path} (n rest : String) {c : Char}
    (hrest : '/' ∉ rest.toList) (hlast : rest.toList.getLast? = some c) (hdot : c ≠ '.')
    (hc : c ≠ 'o') : (w.path.join ⟨n ++ rest⟩).components ≠ (w.objectFile source).components := by
  intro heq
  obtain ⟨front, hjoin⟩ := exists_components_join w.path ⟨n ++ rest⟩
  obtain ⟨front', m, hsteps⟩ := exists_steps_append n hrest
    ⟨c, List.mem_of_getLast? hlast, hdot⟩
  rw [hjoin, hsteps, components_objectFile, ← List.append_assoc] at heq
  obtain ⟨-, hname⟩ := List.append_inj' heq rfl
  have hname : m ++ rest = objectStem source ++ ".o" := by simpa using hname
  have hchars := congrArg (fun t : String => t.toList.getLast?) hname
  simp [List.getLast?_append, hlast, hc] at hchars

/-- **An object file is none of the other files**, but for the executable, whatever the basename is:
it is the only one with this ending. -/
theorem objectFile_ne_file {w : Workspace} {source file : Path}
    (h : file ∈ [w.projectFile, w.symbolFile, w.mlirFile] ++ w.sourceFiles basename cxx) :
    file.components ≠ (w.objectFile source).components := by
  rcases List.mem_append.1 h with h | h
  · simp only [List.mem_cons, List.not_mem_nil, or_false] at h
    rcases h with rfl | rfl | rfl
    · exact components_ne_of_getLast? "" "asl2c.prj" (c := 'j') (by decide) rfl (by decide)
        (by decide)
    · exact components_ne_of_getLast? "" "config.json" (c := 'n') (by decide) rfl (by decide)
        (by decide)
    · exact components_ne_of_getLast? "" "asl.mlir" (c := 'r') (by decide) rfl (by decide)
        (by decide)
  · rw [sourceFiles_eq] at h
    obtain ⟨part, hpart, rfl⟩ := List.mem_map.1 h
    refine components_ne_of_getLast? basename (sourceEnding part cxx)
      (c := if cxx then 'p' else 'c') (slash_not_mem_sourceEnding part hpart cxx) ?_ ?_ ?_
    · simpa using getLast?_sourceEnding "" part cxx
    · cases cxx <;> decide
    · cases cxx <;> decide

/-- The basename leads to the entry of the working directory with a name: as an absolute path it
leads there, or as a relative one it is this one step, with no dot in front if the path of the
directory is empty. -/
def ProgramIsAt (w : Workspace) (basename name : String) : Prop :=
  if isAbsolute ⟨basename⟩ then components ⟨basename⟩ = w.path.components ++ [.name name]
  else steps ⟨basename⟩ = [.name name] ∧ (w.path.text = "" → lead ⟨basename⟩ = .plain)

/-- **The executable is an object file** exactly if the basename leads there. -/
theorem executable_eq_objectFile_iff {w : Workspace} {source : Path} :
    (w.executable basename).components = (w.objectFile source).components ↔
      w.ProgramIsAt basename (objectStem source ++ ".o") := by
  rw [components_objectFile, ProgramIsAt, executable]
  cases habs : isAbsolute ⟨basename⟩ with
  | true => rw [if_pos rfl, join, habs, if_pos rfl]
  | false =>
    rw [if_neg Bool.false_ne_true]
    by_cases hw : w.path.text = ""
    · have hempty : w.path.components = [] := by
        rw [show w.path = ⟨""⟩ from congrArg Path.mk hw]
        rfl
      rw [join_of_empty hw, components_eq, hempty]
      cases hlead : lead ⟨basename⟩ <;> simp [Lead.components, hw]
    · rw [components_join habs hw]
      simp [hw]

end Workspace

end AslBuild
