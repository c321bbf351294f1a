import AslBuild.Proofs.Script.Recorded
import AslBuild.Proofs.Session.Residue
import AslBuild.Proofs.Session.Sightings
import AslBuild.Proofs.Symbols.RoundTrip
set_option autoImplicit false

/-!
# What the compiler reads

A session writes a script and a symbol file for the compiler, and names them on its command line. A
file of that name may be there before, and is replaced. So when the compiler is run, what it reads
under these names is what was configured: the stages of the pipeline, and the symbols of the
settings.

The two files have to be files of their own. A device gives nothing back of what is written to it,
and if both names are those of one file, what it holds in the end are the symbols.

## Main definitions

* `AslBuild.FileSystem.Disk.Shows` — a path leads to a file with a text.
* `AslBuild.Workspace.FilesApart` — the script and the symbol file are files of their own.
* `AslBuild.Session.Reads` — a command names files that hold what was configured.

## Main results

* `AslBuild.Workspace.Ready.write_both` — both files hold what was written, once the script was
  written and then the symbol file.
* `AslBuild.Session.execute_reads` — what the compiler reads when it is run.
-/

namespace AslBuild

open FileSystem Runner

/-- A path leads to a file with a text. -/
def FileSystem.Disk.Shows (d : Disk) (p : Path) (text : String) : Prop :=
  ∃ loc mode, d.stat p = .ok (loc, .file (bytesOf text) mode)

variable {σ : Type}

/-! ## Files that are written -/

namespace Workspace

/-- The script and the symbol file of a directory are files of their own: neither name is that of a
device, and they are not names of one file. -/
structure FilesApart (d : Disk) (dir : Path) : Prop where
  /-- Neither is a device. -/
  ordinary : ∀ site ∈ sites d dir, ∀ kind, d.tree.get? site ≠ some (.device kind)
  /-- They are not one file. -/
  apart : ¬ d.tree.Shares (d.landing dir ++ ["asl2c.prj"]) (d.landing dir ++ ["config.json"])

/-- A directory in which the script and the symbol file may be written. -/
structure Ready (d : Disk) (dir : Path) : Prop where
  /-- There are no symbolic links. -/
  plain : d.Plain
  /-- The paths of the files name entries of the directory. -/
  names : ∀ n ∈ writtenNames, d.Names (dir.join ⟨n⟩) (d.landing dir) n
  /-- These are files of their own. -/
  files : FilesApart d dir

variable {d d' : Disk} {dir : Path} {dirs files : List Location} {n text : String}

/-- Files of their own stay so. -/
lemma FilesApart.of_changes (h : FilesApart d dir) (hchanges : d.Changes dirs files d') :
    FilesApart d' dir := by
  refine ⟨fun site hsite kind hdevice => ?_, fun hshares => ?_⟩
  · rw [sites_of_changes hchanges] at hsite
    exact h.ordinary site hsite kind (hchanges.device hdevice)
  · rw [hchanges.landing] at hshares
    exact h.apart (hchanges.shares _ _ hshares)

/-- A directory stays ready. -/
lemma Ready.of_changes (h : Ready d dir) (hchanges : d.Changes dirs files d') : Ready d' dir := by
  refine ⟨hchanges.plain h.plain, fun n hn => ?_, h.files.of_changes hchanges⟩
  rw [hchanges.landing]
  exact hchanges.names (h.names n hn)

/-- The paths of the files name entries of a working directory that was acquired. Acquiring it
changed at most locations on the way to it. -/
lemma names_of_acquire {requested : Option Path} {keep verbose : Bool} {w w₁ : World σ}
    {ws : Workspace} (hd : w.disk.Plain)
    (h : (acquire requested keep verbose).run w = (.ok ws, w₁)) :
    w.disk.Changes (w.disk.route ws.path) [] w₁.disk ∧
      ∀ n ∈ writtenNames, w₁.disk.Names (ws.path.join ⟨n⟩) (w₁.disk.landing ws.path) n := by
  obtain ⟨-, -, hpath, -, -⟩ := acquire_eq_ok h
  have hchanges := changes_acquire hd requested keep verbose
  rw [h, ← hpath] at hchanges
  refine ⟨hchanges, fun n hn => ?_⟩
  have hname := isFileName_of_mem_writtenNames n hn
  by_cases hempty : ws.path.text = ""
  · exact Disk.names_of_empty hempty hname
  · have hrequested : requested ≠ some ⟨""⟩ := by
      rintro rfl
      exact hempty (by rw [hpath]; rfl)
    obtain ⟨-, -, hholds⟩ := run_acquire_plain hd hrequested keep verbose
    rw [h] at hholds
    exact (hholds ws rfl).names hname

/-- **A working directory that was acquired is ready**, if the files are of their own. -/
lemma ready_of_acquire {requested : Option Path} {keep verbose : Bool} {w w₁ : World σ}
    {ws : Workspace} (hd : w.disk.Plain)
    (hfiles : FilesApart w.disk (acquiredPath requested w.disk))
    (h : (acquire requested keep verbose).run w = (.ok ws, w₁)) :
    w₁.disk = { w.disk with tree := w₁.disk.tree } ∧ Ready w₁.disk ws.path := by
  obtain ⟨-, -, hpath, -, -⟩ := acquire_eq_ok h
  obtain ⟨hchanges, hnames⟩ := names_of_acquire hd h
  rw [← hpath] at hfiles
  exact ⟨hchanges.view, hchanges.plain hd, hnames, hfiles.of_changes hchanges⟩

/-- **A file that was written holds what was written.** -/
lemma Ready.write (h : Ready d dir) (hn : n ∈ writtenNames)
    (hwrite : (Disk.write (dir.join ⟨n⟩) (bytesOf text)).run d = (.ok (), d')) :
    d.Changes [] [d.landing dir ++ [n]] d' ∧
      ∃ mode, d'.stat (dir.join ⟨n⟩) = .ok (d.landing dir ++ [n], .file (bytesOf text) mode) := by
  obtain ⟨hchanges, -⟩ := Disk.run_write_plain h.plain (h.names n hn) (bytesOf text)
  rw [hwrite] at hchanges
  exact ⟨hchanges, Disk.stat_of_write h.plain (h.names n hn) hwrite
    (h.files.ordinary _ (List.mem_map_of_mem hn))⟩

/-- **Both files hold what was written**, once the script was written and then the symbol file. -/
lemma Ready.write_both {d₁ d₂ : Disk} {script symbols : String} (h : Ready d dir)
    (hscript : (Disk.write (dir.join ⟨"asl2c.prj"⟩) (bytesOf script)).run d = (.ok (), d₁))
    (hsymbols : (Disk.write (dir.join ⟨"config.json"⟩) (bytesOf symbols)).run d₁ = (.ok (), d₂)) :
    d₂ = { d with tree := d₂.tree } ∧ d₂.Shows (dir.join ⟨"asl2c.prj"⟩) script ∧
      d₂.Shows (dir.join ⟨"config.json"⟩) symbols := by
  obtain ⟨hchanges, mode, hstat⟩ := h.write (by decide) hscript
  have hready := h.of_changes hchanges
  obtain ⟨hchanges', mode', hstat'⟩ := hready.write (by decide) hsymbols
  obtain ⟨-, hget⟩ := Disk.locate_of_stat hstat
  have hkept : d₂.tree.get? (d.landing dir ++ ["asl2c.prj"]) =
      some (.file (bytesOf script) mode) := by
    -- the symbol file is another file, so the script stays
    refine hchanges'.get?_of_apart hget fun file hfile => ?_
    rw [List.mem_singleton.1 hfile, hchanges.landing]
    refine ⟨fun hsame => ?_, fun hshares => h.files.apart (hchanges.shares _ _ hshares)⟩
    exact absurd (List.append_cancel_left hsame) (by decide)
  have hscript' := hchanges'.stat hready.plain hstat hkept
  exact ⟨by rw [hchanges'.view, hchanges.view], ⟨_, _, hscript'⟩, _, _, hstat'⟩

end Workspace

/-! ## What the command line names -/

namespace Session

variable {s : Session} {inputs : List Path} {ws : Workspace} {task : CompilerTask}

/-- The script that is named to the compiler is that of the working directory. -/
lemma valuesOf_project (s : Session) (ws : Workspace) :
    Command.valuesOf "--project=" (s.optionsFor ws .follow) = [ws.projectFile.text] := by
  have hcompiler : Command.valuesOf "--project=" s.compiler.arguments = [] :=
    valuesOf_compiler (by decide)
  have hproject : Command.valuesOf "--project=" ["--project=" ++ ws.projectFile.text] =
      [ws.projectFile.text] :=
    Command.valuesOf_map "--project=" Path.text [ws.projectFile]
  rw [optionsFor, Command.valuesOf_append, Command.valuesOf_append, hcompiler, hproject,
    valuesOf_files (by decide)]
  rfl

/-- The script that is named first to the compiler is that of the working directory. -/
lemma head?_project (s : Session) (inputs : List Path) (ws : Workspace) :
    (Command.valuesOf "--project=" (s.compilerRun inputs ws .follow).arguments).head? =
      some ws.projectFile.text := by
  rw [compilerRun_eq, Command.valuesOf_append, valuesOf_project]
  rfl

/-- The configuration file that is named first to the compiler is the symbol file of the working
directory, unless the program is interpreted. -/
lemma head?_configuration (s : Session) (inputs : List Path) (ws : Workspace)
    (htask : task ≠ .interpret) :
    (Command.valuesOf "--configuration=" (s.compilerRun inputs ws task).arguments).head? =
      some ws.symbolFile.text := by
  rw [compilerRun_eq, Command.valuesOf_append, valuesOf_configuration]
  cases task with
  | follow | mlir => rfl
  | interpret => exact absurd rfl htask

/-! ## Sessions -/

/-- A command that runs the compiler for a task names files that hold what was configured. -/
structure Reads (s : Session) (dir : Path) (task : CompilerTask) (d : Disk) (c : Command) : Prop
    where
  /-- The first configuration file is read as the symbols of the settings: `main` and then the other
  exports, the imports, and the thread-local variables. -/
  symbols : ∃ file text,
    (Command.valuesOf "--configuration=" c.arguments).head? = some file ∧ d.Shows ⟨file⟩ text ∧
      Symbols.decode? text = some ⟨"main" :: s.settings.exports.filter (· != "main"),
        s.settings.imports, s.settings.threadLocals⟩
  /-- If a script is followed, it is read as the stages of the pipeline into the directory. -/
  script : task = .follow → ∃ file text p,
    (Command.valuesOf "--project=" c.arguments).head? = some file ∧ d.Shows ⟨file⟩ text ∧
      s.settings.pipelineInto dir.text = .ok p ∧ Script.parse text = .ok p.stages

/-- The symbols that are written are read back. -/
lemma decode?_symbols (s : Settings) :
    Symbols.decode? (Symbols.ofSettings s).encode =
      some ⟨"main" :: s.exports.filter (· != "main"), s.imports, s.threadLocals⟩ :=
  Symbols.decode?_encode _

/-- The script that is written is read back, if the recorded command is a line. -/
lemma parse_script {dir : String} {p : Pipeline} (hp : s.settings.pipelineInto dir = .ok p)
    (hline : ∀ line, s.commandLine = some line → '\n' ∉ line.toList) :
    Script.parse (Script.render p s.commandLine) = .ok p.stages := by
  cases hcommand : s.commandLine with
  | none => rw [Settings.parse_render_of_pipelineInto hp]; rfl
  | some line => exact Settings.parse_render_of_oneLine hp (hline line hcommand)

section

variable {r : Runner σ} {w w₁ : World (σ × List Sighting)} {first : Sighting}
  {rest : List Sighting} (hready : Workspace.Ready w.disk ws.path) (hnone : w.tools.2 = [])

include hready hnone

/-- What the compiler reads when it is run to follow a script. -/
lemma reads_of_build (hline : ∀ line, s.commandLine = some line → '\n' ∉ line.toList)
    (hnoted : ((s.build r.observed inputs ws).run w).2.tools.2 = first :: rest) :
    s.Reads ws.path .follow { w.disk with tree := first.tree }
      (s.compilerRun inputs ws .follow) := by
  rcases noted_build hnone rfl with hnil | ⟨p, d₁, d₂, hp, hproject, hsymbols, rest', hfirst⟩
  · exact absurd (hnoted.symm.trans hnil) (by simp)
  obtain ⟨rfl, -⟩ := List.cons.inj (hnoted.symm.trans hfirst)
  obtain ⟨hview, hscript, hshown⟩ := hready.write_both hproject hsymbols
  rw [show ({ w.disk with tree := d₂.tree } : Disk) = d₂ from hview.symm]
  exact ⟨⟨_, _, head?_configuration s inputs ws (by decide), hshown, decode?_symbols s.settings⟩,
    fun _ => ⟨_, _, p, head?_project s inputs ws, hscript, hp, parse_script hp hline⟩⟩

/-- What the compiler reads when it is run to generate MLIR. -/
lemma reads_of_runMlir
    (hnoted : ((s.runMlir r.observed inputs ws).run w).2.tools.2 = first :: rest) :
    s.Reads ws.path .mlir { w.disk with tree := first.tree } (s.compilerRun inputs ws .mlir) := by
  rcases noted_runMlir hnone rfl with hnil | ⟨d₁, hsymbols, rest', hfirst⟩
  · exact absurd (hnoted.symm.trans hnil) (by simp)
  obtain ⟨rfl, -⟩ := List.cons.inj (hnoted.symm.trans hfirst)
  obtain ⟨hchanges, mode, hstat⟩ := hready.write (by decide) hsymbols
  rw [show ({ w.disk with tree := d₁.tree } : Disk) = d₁ from hchanges.view.symm]
  exact ⟨⟨_, _, head?_configuration s inputs ws (by decide), ⟨_, mode, hstat⟩,
    decode?_symbols s.settings⟩, fun h => absurd h (by decide)⟩

end

/-- The command depends on the working directory only by its path. -/
lemma compilerRun_congr {ws' : Workspace} (h : ws.path = ws'.path) :
    s.compilerRun inputs ws task = s.compilerRun inputs ws' task := by
  cases task with
  | follow =>
    simp only [compilerRun, generateCommand, Workspace.projectFile, Workspace.symbolFile, h]
  | mlir => simp only [compilerRun, mlirCommand, Workspace.symbolFile, Workspace.mlirFile, h]
  | interpret => rfl

/-- What the compiler reads when it is run in the working directory of a session. -/
lemma reads_of_noted {r : Runner σ} {w : World σ} {first : Sighting} {rest : List Sighting}
    (hplain : w.disk.Plain)
    (hfiles : Workspace.FilesApart w.disk (Workspace.acquiredPath s.settings.workingDir w.disk))
    (hline : ∀ line, s.commandLine = some line → '\n' ∉ line.toList)
    (htask : s.task? = some task) (hfollows : task ≠ .interpret)
    (hws : ws.path = Workspace.acquiredPath s.settings.workingDir w.disk)
    (hnoted : ((s.execute r.observed inputs).run w.watching).2.tools.2 = first :: rest) :
    s.Reads ws.path task { w.disk with tree := first.tree } (s.compilerRun inputs ws task) := by
  -- what was noted was noted by the steps, once the directory was acquired
  have hacquired {steps : Workspace → Work (σ × List Sighting) (Option Path × Statistics)}
      (hsteps : s.steps? r.observed inputs = some steps) : ∃ ws' w₁,
        ws'.path = ws.path ∧ Workspace.Ready w₁.disk ws'.path ∧ w₁.tools.2 = [] ∧
          w₁.disk = { w.disk with tree := w₁.disk.tree } ∧
          ((steps ws').run w₁).2.tools.2 = first :: rest := by
    rcases noted_execute hsteps w.watching with hnone | ⟨ws', w₁, hacquire, hnone, hsame⟩
    · rw [hnone] at hnoted
      exact absurd hnoted (by simp [World.watching])
    · obtain ⟨-, -, hpath, -, -⟩ := Workspace.acquire_eq_ok hacquire
      obtain ⟨hview, hready⟩ := Workspace.ready_of_acquire (w := w.watching) hplain hfiles hacquire
      exact ⟨ws', w₁, hpath.trans hws.symm, hready, congrArg Prod.snd hnone, hview,
        by rw [← hsame, hnoted]⟩
  cases task with
  | follow =>
    obtain ⟨ws', w₁, hpath, hready, hnone, hview, hsteps⟩ := hacquired (steps?_of_follow htask)
    have hreads := reads_of_build hready hnone hline hsteps
    rw [hview, hpath, compilerRun_congr hpath] at hreads
    exact hreads
  | mlir =>
    obtain ⟨ws', w₁, hpath, hready, hnone, hview, hsteps⟩ := hacquired (steps?_of_mlir htask)
    have hreads := reads_of_runMlir hready hnone hsteps
    rw [hview, hpath, compilerRun_congr hpath] at hreads
    exact hreads
  | interpret => exact absurd rfl hfollows

/-- A session that builds a program in the directory `work`, with some symbols and a recorded
command. -/
def rebuilding : Session where
  settings := {
    action := .build
    workingDir := some "work"
    exports := ["f", "main", "g", "f"]
    imports := ["put"] }
  installation := ⟨"/opt/asli"⟩
  commandLine := some "asl2c build"

/-- A home directory with the directory `work`, in which older files have the names of the script
and of the symbol file. -/
def withOlderFiles : World (List String) where
  disk := {
    tree := {
      entries := [(["home"], .dir 0o755), (["home", "work"], .dir 0o755),
        (["home", "work", "asl2c.prj"], .file (bytesOf ":quit") 0o644),
        (["home", "work", "config.json"], .file (bytesOf "[]") 0o644)] }
    cwd := ["home"]
    temp := "/tmp" }
  tools := []

end Session

end AslBuild
