import AslBuild.Native.Installation
import AslBuild.Proofs.FileSystem.Route
import AslBuild.Proofs.Path.Components
set_option autoImplicit false

/-!
# Where the runtime of a build tree is looked for

A compiler in a build tree has its runtime beside the directory that it is in. The flags that name
the runtime are found by taking two components off the path of the compiler. The second one is the
name of its directory if the path says that name. If the path says dots in its place, or nothing,
what is left is another directory than the one above, unless there is none above.

## Main definitions

* `AslBuild.FileSystem.arrive` — where components lead.

## Main results

* `AslBuild.FileSystem.Disk.landing_eq` — where a path leads is told by its components.
* `AslBuild.Installation.landing_root_iff` — when the root of a compiler is above its directory.
* `AslBuild.Installation.flags_beside_compiler` — what the flags of a runtime name.
* `AslBuild.Installation.exists_runtime_elsewhere` — a compiler whose runtime is looked for in
  another place.
-/

namespace AslBuild

open AslBuild.Path

/-! ## Where components lead -/

namespace FileSystem

/-- Where a component leads from a location. -/
def stepBy (loc : Location) : Component → Location
  | .root => []
  | .here => loc
  | .up => loc.dropLast
  | .name n => loc ++ [n]

/-- Where components lead from a location. -/
def arrive (loc : Location) (cs : List Component) : Location := cs.foldl stepBy loc

/-- A location is above one that is no longer only if both are the root. -/
lemma eq_dropLast_iff {loc loc' : Location} (h : loc'.length ≤ loc.length) :
    loc = loc'.dropLast ↔ loc = [] := by
  constructor
  · intro heq
    have hlength := congrArg List.length heq
    rw [List.length_dropLast] at hlength
    exact List.eq_nil_of_length_eq_zero (by omega)
  · rintro rfl
    obtain rfl : loc' = [] := List.eq_nil_of_length_eq_zero (Nat.le_zero.1 h)
    rfl

@[simp] lemma arrive_append (loc : Location) (cs cs' : List Component) :
    arrive loc (cs ++ cs') = arrive (arrive loc cs) cs' := List.foldl_append

/-- A piece leads to the same place as a name and as a component. -/
lemma stepFrom_piece (loc : Location) {piece : List Char} (h : isFiller piece = false) :
    stepFrom loc (String.ofList piece) = stepBy loc (componentOf piece) := by
  obtain ⟨-, hhere⟩ : piece ≠ [] ∧ piece ≠ ['.'] := by simpa [isFiller] using h
  have hne (text : String) (hpiece : piece ≠ text.toList) : String.ofList piece ≠ text := by
    rintro rfl
    exact hpiece (String.toList_ofList).symm
  by_cases hup : piece = ['.', '.']
  · rw [hup]
    rfl
  · rw [stepFrom_of_name (hne "." hhere) (hne ".." hup), componentOf, if_neg (by simpa using hup)]
    rfl

/-- The names in a text lead where its steps do, by induction on its pieces: a dot among the names
stays where it is. -/
lemma follow_namesOf (loc : Location) (text : List Char) :
    follow loc (namesOf text) = arrive loc (Path.stepsOf text) := by
  unfold namesOf Path.stepsOf
  generalize Text.pieces (· == '/') text = pieces
  induction pieces generalizing loc with
  | nil => rfl
  | cons piece pieces ih =>
    by_cases hempty : piece = []
    · subst hempty
      exact ih loc
    by_cases hhere : piece = ['.']
    · subst hhere
      exact ih loc
    have hfiller : isFiller piece = false := by simp [isFiller, hempty, hhere]
    rw [List.filter_cons_of_pos (by simpa using hempty),
      List.filter_cons_of_pos (by simp [hfiller])]
    show follow (stepFrom loc (String.ofList piece)) _ = arrive (stepBy loc (componentOf piece)) _
    rw [stepFrom_piece loc hfiller]
    exact ih _

namespace Disk

variable {d : Disk} {p child : Path}

/-- **Where a path leads** is told by its components. -/
theorem landing_eq (d : Disk) (p : Path) : d.landing p = arrive d.cwd p.components := by
  have hstart : d.start p = arrive d.cwd p.lead.components := by
    rw [start, startOf_eq, Path.lead]
    cases (splitLead p.text.toList).1 <;> rfl
  rw [landing, Path.names, follow_namesOf, hstart, components_eq, arrive_append]
  rfl

/-- A relative path below another one leads on from there. -/
lemma landing_join (h : child.isAbsolute = false) :
    d.landing (p.join child) = arrive (d.landing p) child.steps := by
  by_cases hp : p.text = ""
  · obtain rfl : p = ⟨""⟩ := congrArg Path.mk hp
    rw [join_of_empty rfl, landing_eq, landing_eq, components_eq]
    cases hlead : child.lead with
    | root => simp [isAbsolute, hlead] at h
    | plain | here => rfl
  · rw [landing_eq, landing_eq, components_join h hp, arrive_append]

end Disk

end FileSystem

/-! ## Parents -/

namespace Path

/-- A path has no parent if it has no component but the root. -/
lemma parent?_eq_none {p : Path} (h : ∀ c, p.components.getLast? = some c → c = .root) :
    p.parent? = none := by
  rw [components_of_pieces rfl rfl] at h
  unfold parent?
  split
  · next hnone =>
    rw [hnone] at h
    split
    · next hhere =>
      rw [hhere] at h
      exact absurd (h .here rfl) (by simp)
    · rfl
  · next hne =>
    -- the last piece names something, so the last component is not the root
    have hlast := isFiller_getLast_pieces (List.getLast?_eq_some_getLast hne)
    rw [← List.dropLast_concat_getLast hne, List.filter_append,
      List.filter_cons_of_pos (by simp [hlast]), List.filter_nil, List.map_append,
      List.map_singleton, ← List.append_assoc] at h
    have hroot := h _ List.getLast?_concat
    unfold componentOf at hroot
    split at hroot <;> exact absurd hroot (by simp)

end Path

/-! ## The root of a compiler -/

namespace Installation

open FileSystem

variable {i : Installation} {dir : Path}

/-- **The root of a compiler is above its directory** exactly if the path of the compiler says the
name of the directory, or if the root is that of the file system.

**Proof sketch.** The root has the components of the directory but the last one. If that is a name,
it leads one step down from the root. If it is two dots, the directory is above the root already, so
what is above the directory is the root only where there is nothing above. If it is a dot, or if
there is none to take off, the root is the directory itself or the one the program works in. -/
theorem landing_root_iff (hdir : i.program.parent? = some dir) (d : Disk) :
    d.landing i.root = (d.landing dir).dropLast ↔
      dir.fileName?.isSome = true ∨ d.landing i.root = [] := by
  have hroot : i.root = dir.parent?.getD ⟨""⟩ := by
    rw [root, hdir]
    rfl
  have hstay (loc : Location) : loc = loc.dropLast ↔ loc = [] := eq_dropLast_iff (Nat.le_refl _)
  have hname : dir.fileName?.isSome = true ↔ ∃ n, dir.components.getLast? = some (.name n) := by
    simp only [Option.isSome_iff_exists, fileName?_eq_some_iff]
  rw [hname]
  rcases List.eq_nil_or_concat' dir.components with hnil | ⟨front, c, hc⟩
  · -- there is nothing to take off
    have hempty : d.landing dir = d.landing ⟨""⟩ := by
      rw [Disk.landing_eq, Disk.landing_eq, hnil]
      rfl
    rw [hroot, parent?_eq_none (by simp [hnil]), Option.getD_none, hempty, hnil, ← hstay]
    simp
  · have hlanding : d.landing dir = stepBy (arrive d.cwd front) c := by
      rw [Disk.landing_eq, hc, arrive_append]
      rfl
    by_cases hcroot : c = .root
    · rw [hroot, parent?_eq_none (by simp [hc, hcroot]), Option.getD_none, hlanding, hc, hcroot]
      simp [stepBy]
    · obtain ⟨q, hq⟩ := exists_parent?_of_components hc hcroot
      have hlandingRoot : d.landing i.root = arrive d.cwd front := by
        rw [hroot, hq, Option.getD_some, Disk.landing_eq, components_of_parent? hq, hc,
          List.dropLast_concat]
      rw [hlandingRoot, hlanding, hc, List.getLast?_concat]
      cases c with
      | root => exact absurd rfl hcroot
      | here => simpa [stepBy] using hstay (arrive d.cwd front)
      | name n => simp [stepBy]
      | up =>
        have hshorter : (arrive d.cwd front).dropLast.length ≤ (arrive d.cwd front).length := by
          rw [List.length_dropLast]
          exact Nat.sub_le _ 1
        simpa [stepBy] using eq_dropLast_iff hshorter

/-- A relative path below the root of a compiler leads to the same place as below the directory
above the compiler's own, exactly if these are the same. -/
lemma landing_join_root_iff {child above : Path} (d : Disk) (names : List String)
    (habsolute : child.isAbsolute = false) (hsteps : child.steps = names.map .name)
    (habove : above.isAbsolute = false) (hup : above.steps = .up :: child.steps) :
    d.landing (i.root.join child) = d.landing (dir.join above) ↔
      d.landing i.root = (d.landing dir).dropLast := by
  have harrive (loc : Location) : arrive loc child.steps = loc ++ names := by
    rw [hsteps]
    clear hsteps hup
    induction names generalizing loc with
    | nil => exact (List.append_nil loc).symm
    | cons n names ih =>
      show arrive (loc ++ [n]) (names.map .name) = _
      rw [ih, List.append_assoc]
      rfl
  have hclimb (loc : Location) : arrive loc above.steps = loc.dropLast ++ names := by
    rw [hup]
    exact harrive loc.dropLast
  rw [Disk.landing_join habsolute, Disk.landing_join habove, harrive, hclimb]
  exact List.append_left_inj names

/-! ## Main results -/

/-- **What the flags of a runtime name.** Let the compiler be one that is not asked for its flags,
with a file name in its path. Then it is in a directory, and the flags name a directory of headers
and a library, without any call. For every working directory, these are the ones beside the
directory of the compiler exactly if the path of the compiler says the name of that directory, or if
the root of the compiler is the root of the file system.

**Proof sketch.** The headers and the library are below the root of the compiler by the same names
as they are wanted to be below the directory above the compiler's own (`landing_join_root_iff`), so
it all hangs on whether the root is that directory (`landing_root_iff`). -/
theorem flags_beside_compiler (i : Installation) {n : String}
    (hname : i.program.fileName? = some n) (hplace : i.isInstalled = false) :
    ∃ dir headers library : Path, i.program.parent? = some dir ∧
      (∀ {σ : Type} (r : Runner σ) (w : World σ),
        (i.compileFlags r).run w = (.ok ["-I" ++ headers.text], w) ∧
          (i.linkFlags r).run w = (.ok [library.text], w)) ∧
      ∀ d : Disk,
        let wellPlaced := dir.fileName?.isSome = true ∨ d.landing i.root = []
        (d.landing headers = d.landing (dir.join "../lib/asli/runtime_include") ↔ wellPlaced) ∧
          (d.landing library = d.landing (dir.join "../lib/asli/runtime/libASL.a") ↔
            wellPlaced) := by
  obtain ⟨front, hfront⟩ := List.getLast?_eq_some_iff.1 (fileName?_eq_some_iff.1 hname)
  obtain ⟨dir, hdir⟩ := exists_parent?_of_components hfront (by simp)
  refine ⟨dir, i.includeDir, i.library, hdir, fun r w => ?_, fun d => ?_⟩
  · rw [compileFlags, linkFlags, hplace]
    exact ⟨rfl, rfl⟩
  · have hroot := landing_root_iff hdir d
    constructor
    · rw [← hroot]
      exact landing_join_root_iff d ["lib", "asli", "runtime_include"] (by decide) (by decide)
        (by decide) (by decide)
    · rw [← hroot]
      exact landing_join_root_iff d ["lib", "asli", "runtime", "libASL.a"] (by decide) (by decide)
        (by decide) (by decide)

/-- A view of the files from the directory of the compiler. -/
def fromBin : Disk where
  tree := { entries := [] }
  cwd := ["asl", "bin"]
  temp := "/tmp"

/-- A path that goes up and stays on its way may still say the name of the directory. -/
theorem flags_beside_compiler_relative :
    let i : Installation := ⟨"../x/./bin/asli"⟩
    i.program.fileName? = some "asli" ∧ i.isInstalled = false ∧
      ∃ dir headers library : Path, i.program.parent? = some dir ∧ dir.fileName? = some "bin" ∧
        fromBin.landing headers = ["asl", "x", "lib", "asli", "runtime_include"] ∧
        fromBin.landing library = ["asl", "x", "lib", "asli", "runtime", "libASL.a"] := by
  intro i
  obtain ⟨dir, headers, library, hdir, -, hplaced⟩ :=
    flags_beside_compiler i (n := "asli") (by decide) (by decide)
  have hparent : i.program.parent? = some ⟨"../x/./bin"⟩ := by decide
  obtain rfl := Option.some.inj (hparent.symm.trans hdir)
  have hbin : fileName? ⟨"../x/./bin"⟩ = some "bin" := by decide
  have hsome : (fileName? ⟨"../x/./bin"⟩).isSome = true := by rw [hbin]; rfl
  obtain ⟨hheaders, hlibrary⟩ := hplaced fromBin
  refine ⟨by decide, by decide, _, headers, library, hdir, hbin, ?_, ?_⟩
  · rw [hheaders.2 (Or.inl hsome)]
    decide
  · rw [hlibrary.2 (Or.inl hsome)]
    decide

/-- **The runtime may be looked for elsewhere**: if the path of the compiler starts with a dot for
its directory, then the flags name the headers and the library below that directory itself, and not
beside it. -/
theorem exists_runtime_elsewhere :
    ∃ (i : Installation) (dir headers library : Path) (d : Disk),
      '/' ∈ i.program.text.toList ∧ i.program.fileName? = some "asli" ∧ i.isInstalled = false ∧
        i.program.parent? = some dir ∧
        (∀ {σ : Type} (r : Runner σ) (w : World σ),
          (i.compileFlags r).run w = (.ok ["-I" ++ headers.text], w) ∧
            (i.linkFlags r).run w = (.ok [library.text], w)) ∧
        d.landing headers = d.landing dir ++ ["lib", "asli", "runtime_include"] ∧
        d.landing headers ≠ d.landing (dir.join "../lib/asli/runtime_include") ∧
        d.landing library ≠ d.landing (dir.join "../lib/asli/runtime/libASL.a") :=
  ⟨⟨"./asli"⟩, ".", "lib/asli/runtime_include", "lib/asli/runtime/libASL.a", fromBin, by decide,
    by decide, by decide, by decide, fun _ _ => ⟨rfl, rfl⟩, by decide, by decide, by decide⟩

end Installation

end AslBuild
