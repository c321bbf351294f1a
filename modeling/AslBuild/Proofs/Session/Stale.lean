import AslBuild.Proofs.Session.Reading
import AslBuild.Proofs.Session.Tally
set_option autoImplicit false

/-!
# What was there before does not matter

A session may be held in a directory that holds files already, those of an earlier session perhaps.
It never reads them, so what it does is the same as in a fresh directory, as long as it succeeds in
both: it calls the same tools, says the same, reports the same, and writes the same texts into the
same files. And whatever else was there stays as it was.

## Main definitions

* `AslBuild.Runner.Blind` — a runner that neither looks at the files nor changes them.
* `AslBuild.Work.Agree` — two steps do the same, whatever the files are.
* `AslBuild.Session.outputs` — the files that a session writes into its working directory.
* `AslBuild.Session.Fills` — a session wrote its files, and changed nothing that was there before.

## Main results

* `AslBuild.Session.agree_execute` — what a session does does not depend on the files.
* `AslBuild.Session.fills_of_execute` — what a session leaves in a directory that is kept.
* `AslBuild.Session.execute_stale` — what was there before does not matter.
-/

namespace AslBuild

open FileSystem

variable {σ α β : Type}

/-! ## Runners that do not look at the files -/

/-- A runner that neither looks at the files nor changes them. -/
structure Runner.Blind (r : Runner σ) : Prop where
  /-- What comes of a run does not depend on them, and leaves them alone. -/
  run (c : Command) (d d' : Disk) (state : σ) :
    r.run c d' state = { r.run c d state with tree := d'.tree }
  /-- Nor does what comes of a question. -/
  capture (c : Command) (d d' : Disk) (state : σ) :
    r.capture c d' state = { r.capture c d state with tree := d'.tree }
  /-- Nor does what is found. -/
  find (name : String) (d d' : Disk) (state : σ) : r.find name d' state = r.find name d state

/-- A rehearsal does not look at the files. -/
lemma Rehearsal.blind (r : Rehearsal) : r.runner.Blind :=
  ⟨fun _ _ _ _ => rfl, fun _ _ _ _ => rfl, fun _ _ _ _ => rfl⟩

/-- A runner that does not look at the files leaves them alone. -/
lemma Runner.Blind.leavesFiles {r : Runner σ} (hr : r.Blind) : r.LeavesFiles :=
  ⟨fun c d state => by rw [hr.run c d d state], fun c d state => by rw [hr.capture c d d state]⟩

/-! ## Steps that agree -/

namespace Work

/-- Two steps do the same, whatever the files are: if the runner starts in the same state and both
succeed, they give the same value, leave the runner in the same state, and add the same events to
the journal. -/
def Agree (α : Type) (x x' : Work σ α) : Prop :=
  ∀ ⦃w v w' v' : World σ⦄ ⦃a a' : α⦄, w.tools = w'.tools → x.run w = (.ok a, v) →
    x'.run w' = (.ok a', v') → a = a' ∧ v.tools = v'.tools ∧
      ∃ events, v.journal = w.journal ++ events ∧ v'.journal = w'.journal ++ events

/-- A value is the same. -/
lemma agree_pure (a : α) : Agree α (pure a : Work σ α) (pure a) := by
  intro w v w' v' b b' htools h h'
  obtain ⟨hvalue, rfl⟩ := Prod.mk.inj h
  obtain ⟨hvalue', rfl⟩ := Prod.mk.inj h'
  exact ⟨Except.ok.inj (hvalue.symm.trans hvalue'), htools, [], by simp, by simp⟩

/-- Of a failure there is nothing to agree on. -/
lemma agree_fail (e : Failure) : Agree α (Act.fail e : Work σ α) (Act.fail e) :=
  fun _ _ _ _ _ _ _ h => absurd (congrArg Prod.fst h) (by simp)

/-- Sequences agree if their steps do. -/
lemma Agree.bind {x x' : Work σ α} {f f' : α → Work σ β} (hx : Agree α x x')
    (hf : ∀ a, Agree β (f a) (f' a)) : Agree β (x >>= f) (x' >>= f') := by
  intro w v w' v' b b' htools h h'
  obtain ⟨a, u, hfirst, hrest⟩ := Act.exists_of_bind_eq_ok h
  obtain ⟨a', u', hfirst', hrest'⟩ := Act.exists_of_bind_eq_ok h'
  obtain ⟨rfl, hmiddle, events, hjournal, hjournal'⟩ := hx htools hfirst hfirst'
  obtain ⟨hvalue, hend, later, hlater, hlater'⟩ := hf a hmiddle hrest hrest'
  refine ⟨hvalue, hend, events ++ later, ?_, ?_⟩
  · rw [hlater, hjournal, List.append_assoc]
  · rw [hlater', hjournal', List.append_assoc]

/-- Notes agree. -/
lemma agree_note (e : Event) : Agree Unit (note e : Work σ Unit) (note e) := by
  intro w v w' v' a a' htools h h'
  obtain ⟨-, rfl⟩ := Prod.mk.inj h
  obtain ⟨-, rfl⟩ := Prod.mk.inj h'
  exact ⟨rfl, htools, [e], rfl, rfl⟩

/-- Steps over the files agree if they have no value. -/
lemma agree_onDisk (wrap : IoError → Failure) (x x' : Disk.Step Unit) :
    Agree Unit (onDisk wrap x : Work σ Unit) (onDisk wrap x') := by
  intro w v w' v' a a' htools h h'
  obtain ⟨-, rfl⟩ := Prod.mk.inj h
  obtain ⟨-, rfl⟩ := Prod.mk.inj h'
  exact ⟨rfl, htools, [], by simp, by simp⟩

/-- Calls agree if what comes of them does not depend on the files. -/
lemma agree_call {mode : CallMode} {request : Command → Disk → σ → Reply σ α} {c : Command}
    (hrequest : ∀ d d' state, request c d' state = { request c d state with tree := d'.tree }) :
    Agree α (call mode request c) (call mode request c) := by
  intro w v w' v' a a' htools h h'
  obtain ⟨hresult, rfl⟩ := Prod.mk.inj h
  obtain ⟨hresult', rfl⟩ := Prod.mk.inj h'
  rw [hrequest w.disk w'.disk, ← htools] at hresult' ⊢
  exact ⟨Except.ok.inj (hresult.symm.trans hresult'), rfl, _, rfl, rfl⟩

end Work

/-- Where no file has several locations and none is a device, the script and the symbol file are
files of their own in every directory. -/
lemma Workspace.filesApart_of_ordinary {d : Disk} (dir : Path) (htwins : d.tree.twins = [])
    (h : ∀ x ∈ d.tree.entries, ∀ kind, x.2 ≠ .device kind) : FilesApart d dir := by
  refine ⟨fun site _ kind hdevice => ?_, fun hshares => ?_⟩
  · unfold Tree.get? at hdevice
    split at hdevice
    · exact absurd hdevice (by simp)
    · obtain ⟨before, after, hentries, -⟩ := List.lookup_eq_some_iff.1 hdevice
      exact h (site, .device kind) (by simp [hentries]) kind rfl
  · obtain ⟨names, hnames, -⟩ := hshares
    rw [htwins] at hnames
    exact absurd hnames List.not_mem_nil

namespace Session

open Work

variable {s : Session} {r : Runner σ} {inputs : List Path}

/-- What sessions are built from agrees, if the runner does not look at the files. -/
lemma agree_parts (hr : r.Blind) : Simulation (Agree (σ := σ)) r r where
  pure := agree_pure
  bind := Agree.bind
  log _ _ := agree_note _
  lacking _ := agree_fail _
  choose env cxx := by
    unfold Toolchain.choose
    split
    · intro w v w' v' a a' htools h h'
      obtain ⟨hvalue, rfl⟩ := Prod.mk.inj h
      obtain ⟨hvalue', rfl⟩ := Prod.mk.inj h'
      have hfind (name : String) : r.find name w'.disk w'.tools = r.find name w.disk w.tools := by
        rw [hr.find name w.disk w'.disk, htools]
      simp only [hfind] at hvalue'
      exact ⟨Except.ok.inj (hvalue.symm.trans hvalue'), htools, [], by simp, by simp⟩
    · exact agree_pure _
  run c := agree_call (hr.run c)
  capture c := agree_call (hr.capture c)
  write path contents := (agree_onDisk _ _ _).bind fun _ => agree_note _

/-- Working directories agree if the same one is given. -/
lemma agree_acquire (dir : Path) (keep verbose : Bool) :
    Agree Workspace (Workspace.acquire (some dir) keep verbose : Work σ Workspace)
      (Workspace.acquire (some dir) keep verbose) := by
  have henter : Agree Workspace (Workspace.enter (some dir) keep : Work σ Workspace)
      (Workspace.enter (some dir) keep) :=
    (agree_onDisk _ _ _).bind fun _ => agree_pure _
  exact henter.bind fun _ => (agree_note _).bind fun _ => agree_pure _

/-- **What a session does does not depend on the files**, if its working directory is given and its
runner does not look at them. -/
theorem agree_execute (hr : r.Blind) {dir : Path} (hdir : s.settings.workingDir = some dir) :
    Agree Report (s.execute r inputs) (s.execute r inputs) := by
  intro w v w' v' report report' htools h h'
  have hparts := agree_parts hr
  cases hsteps : s.steps? r inputs with
  | none =>
    have hdispatch : Agree Report (s.dispatch r inputs) (s.dispatch r inputs) :=
      hparts.dispatch_of_no_steps hsteps fun _ _ => agree_fail _
    obtain ⟨shown, u, hdone, rfl, rfl⟩ := exists_dispatch_of_execute h
    obtain ⟨shown', u', hdone', rfl, rfl⟩ := exists_dispatch_of_execute h'
    obtain ⟨rfl, htools', events, hjournal, hjournal'⟩ := hdispatch htools hdone hdone'
    refine ⟨rfl, htools', events ++ s.epilogue (.ok shown), ?_, ?_⟩
    · rw [hjournal, List.append_assoc]
    · rw [hjournal', List.append_assoc]
  | some steps =>
    have hagree (ws : Workspace) : Agree _ (steps ws) (steps ws) := by
      rcases eq_of_steps? hsteps with rfl | rfl
      · exact hparts.build s inputs ws fun _ _ => agree_fail _
      · exact hparts.runMlir s inputs ws
    obtain ⟨ws, w₁, value, w₂, hacquire, hended, -, hreport, rfl⟩ :=
      exists_steps_of_execute hsteps h
    obtain ⟨ws', w₁', value', w₂', hacquire', hended', -, hreport', rfl⟩ :=
      exists_steps_of_execute hsteps h'
    rw [hdir] at hacquire hacquire'
    obtain ⟨rfl, htools₁, greeting, hgreeting, hgreeting'⟩ :=
      agree_acquire dir _ _ htools hacquire hacquire'
    obtain ⟨rfl, htools₂, events, hjournal, hjournal'⟩ := hagree ws htools₁ hended hended'
    obtain rfl := hreport.trans hreport'.symm
    refine ⟨rfl, htools₂, greeting ++ events ++ ws.farewell ++ s.epilogue (.ok report), ?_, ?_⟩
    · simp only [hjournal, hgreeting, List.append_assoc]
    · simp only [hjournal', hgreeting', List.append_assoc]

/-! ## What is written -/

/-- A file of the working directory is written as it is. -/
lemma write_of_writeFile {path : Path} {contents what : String} {a : Unit} {w w' : World σ}
    (h : (s.writeFile path contents what).run w = (.ok a, w')) :
    (Disk.write path (bytesOf contents)).run w.disk = (.ok (), w'.disk) := by
  obtain ⟨_, w₁, hfile, hsaid⟩ := Act.exists_of_bind_eq_ok h
  obtain ⟨_, w₂, hwrite, hnoted⟩ := Act.exists_of_bind_eq_ok hfile
  obtain ⟨-, rfl⟩ := Prod.mk.inj hsaid
  obtain ⟨-, rfl⟩ := Prod.mk.inj hnoted
  obtain ⟨hresult, rfl⟩ := Prod.mk.inj hwrite
  exact Prod.ext (mapError_eq_ok_iff.1 hresult) rfl

/-- Only files that are written make the files different. -/
lemma calling_of_disk (hr : r.LeavesFiles) :
    Calling (fun α (x : Work σ α) (_ : Work σ α) => ∀ w, (x.run w).2.disk = w.disk) r r :=
  calling_of_untouched hr (R := fun w w' => w'.disk = w.disk) (fun _ _ h => h.1)
    fun _ _ _ h h' => h'.trans h

/-- **What is written when a script is followed**: the script, and then the symbol file. -/
lemma writes_of_build {ws : Workspace} {w w' : World σ} {value : Option Path × Statistics}
    (hr : r.LeavesFiles) (h : (s.build r inputs ws).run w = (.ok value, w')) :
    ∃ p d, s.settings.pipelineInto ws.path.text = .ok p ∧
      (Disk.write ws.projectFile (bytesOf (Script.render p s.commandLine))).run w.disk =
        (.ok (), d) ∧
      (Disk.write ws.symbolFile (bytesOf (Symbols.ofSettings s.settings).encode)).run d =
        (.ok (), w'.disk) := by
  rw [build_eq_follow] at h
  obtain ⟨p, w₁, hp, h₁⟩ := Act.exists_of_bind_eq_ok h
  obtain ⟨hpipeline, rfl⟩ := Prod.mk.inj hp
  obtain ⟨_, w₂, hproject, h₂⟩ := Act.exists_of_bind_eq_ok h₁
  obtain ⟨_, w₃, hsymbols, hrest⟩ := Act.exists_of_bind_eq_ok h₂
  have hdisk := (calling_of_disk hr).follow s inputs ws p (fun _ => (calling_of_disk hr).choose _ _)
    w₃
  rw [hrest] at hdisk
  refine ⟨p, w₂.disk, hpipeline, write_of_writeFile hproject, ?_⟩
  rw [hdisk]
  exact write_of_writeFile hsymbols

/-- **What is written when MLIR is run**: the symbol file. -/
lemma write_of_runMlir {ws : Workspace} {w w' : World σ} {value : Option Path × Statistics}
    (hr : r.LeavesFiles) (h : (s.runMlir r inputs ws).run w = (.ok value, w')) :
    (Disk.write ws.symbolFile (bytesOf (Symbols.ofSettings s.settings).encode)).run w.disk =
      (.ok (), w'.disk) := by
  rw [runMlir_eq_runGenerated] at h
  obtain ⟨_, w₁, hsymbols, hrest⟩ := Act.exists_of_bind_eq_ok h
  have hdisk := (calling_of_disk hr).runGenerated s inputs ws w₁
  rw [hrest] at hdisk
  rw [hdisk]
  exact write_of_writeFile hsymbols

/-- The files that a session writes into its working directory, by their names and with their texts:
the script if one is followed, and the symbol file. -/
def outputs (s : Session) (dir : Path) : List (String × String) :=
  let symbols := ("config.json", (Symbols.ofSettings s.settings).encode)
  match s.task?, s.settings.pipelineInto dir.text with
  | some .follow, .ok p => [("asl2c.prj", Script.render p s.commandLine), symbols]
  | some .mlir, _ => [symbols]
  | _, _ => []

/-- Between two worlds a session wrote its files into a directory, and nothing else is different of
what was there. -/
structure Fills (s : Session) (dir : Path) (w w' : World σ) : Prop where
  /-- The files hold what was written, if the script and the symbol file are files of their own. -/
  texts : Workspace.FilesApart w.disk dir →
    ∀ file ∈ s.outputs dir, w'.disk.Shows (dir.join ⟨file.1⟩) file.2
  /-- Every other file or directory that was there is as it was. -/
  others : ∀ loc e, w.disk.tree.get? loc = some e →
    (∀ file ∈ s.outputs dir, loc ≠ w.disk.landing dir ++ [file.1] ∧
      ¬ w.disk.tree.Shares loc (w.disk.landing dir ++ [file.1])) →
    w'.disk.tree.get? loc = some e
  /-- No other files were written. -/
  wrote : ∃ events, w'.journal = w.journal ++ events ∧
    Event.written events = (s.outputs dir).map fun file => dir.join ⟨file.1⟩

/-- A file is written into a directory, and nothing else changes. -/
lemma changes_of_write {d d' : Disk} {dir : Path} {n text : String} (hd : d.Plain)
    (hnames : d.Names (dir.join ⟨n⟩) (d.landing dir) n)
    (h : (Disk.write (dir.join ⟨n⟩) (bytesOf text)).run d = (.ok (), d')) :
    d.Changes [] [d.landing dir ++ [n]] d' := by
  obtain ⟨hchanges, -⟩ := Disk.run_write_plain hd hnames (bytesOf text)
  rw [h] at hchanges
  exact hchanges

/-- **The files are filled by the steps of a session**, in a directory that was acquired. -/
lemma outputs_of_steps {steps : Workspace → Work σ (Option Path × Statistics)} {ws : Workspace}
    {w w₁ w₂ : World σ} {value : Option Path × Statistics} (hr : r.LeavesFiles)
    (hd : w.disk.Plain) (hsteps : s.steps? r inputs = some steps)
    (hacquire : (Workspace.acquire s.settings.workingDir s.settings.keepFiles
      s.settings.verbose).run w = (.ok ws, w₁))
    (hended : (steps ws).run w₁ = (.ok value, w₂)) :
    w.disk.Changes (w.disk.route ws.path)
        ((s.outputs ws.path).map fun file => w.disk.landing ws.path ++ [file.1]) w₂.disk ∧
      (Workspace.FilesApart w.disk ws.path →
        ∀ file ∈ s.outputs ws.path, w₂.disk.Shows (ws.path.join ⟨file.1⟩) file.2) ∧
      ∃ task, s.task? = some task ∧
        (s.outputs ws.path).map (fun file => ws.path.join ⟨file.1⟩) = ws.filesFor task := by
  obtain ⟨hmade, hnames⟩ := Workspace.names_of_acquire hd hacquire
  have hplain := hmade.plain hd
  have hready (hfiles : Workspace.FilesApart w.disk ws.path) : Workspace.Ready w₁.disk ws.path :=
    ⟨hplain, hnames, hfiles.of_changes hmade⟩
  have hwritten {files : List Location} (h : w₁.disk.Changes [] files w₂.disk) :
      w.disk.Changes (w.disk.route ws.path) files w₂.disk :=
    (hmade.mono (List.Subset.refl _) (List.nil_subset _)).trans
      (h.mono (List.nil_subset _) (List.Subset.refl _))
  rw [← hmade.landing]
  rcases task?_of_steps? hsteps with ⟨htask, rfl⟩ | ⟨htask, rfl⟩
  · obtain ⟨p, d, hp, hproject, hsymbols⟩ := writes_of_build hr hended
    have houtputs : s.outputs ws.path = [("asl2c.prj", Script.render p s.commandLine),
        ("config.json", (Symbols.ofSettings s.settings).encode)] := by
      simp only [outputs, htask, hp]
    rw [houtputs]
    refine ⟨hwritten ?_, ?_, ?_⟩
    · have hscript := changes_of_write hplain (hnames "asl2c.prj" (by decide)) hproject
      have hnames' := hscript.names (hnames "config.json" (by decide))
      rw [← hscript.landing] at hnames'
      have hconfig := changes_of_write (hscript.plain hplain) hnames' hsymbols
      rw [hscript.landing] at hconfig
      exact (hscript.mono (List.nil_subset _) (by simp)).trans
        (hconfig.mono (List.nil_subset _) (by simp))
    · intro hfiles file hfile
      obtain ⟨-, hscript, hconfig⟩ := (hready hfiles).write_both hproject hsymbols
      rcases List.mem_cons.1 hfile with rfl | hfile
      · exact hscript
      · obtain rfl := List.mem_singleton.1 hfile
        exact hconfig
    · exact ⟨.follow, htask, rfl⟩
  · have hsymbols := write_of_runMlir hr hended
    have houtputs : s.outputs ws.path =
        [("config.json", (Symbols.ofSettings s.settings).encode)] := by
      simp only [outputs, htask]
    rw [houtputs]
    refine ⟨hwritten (changes_of_write hplain (hnames "config.json" (by decide)) hsymbols), ?_, ?_⟩
    · rintro hfiles file hfile
      obtain rfl := List.mem_singleton.1 hfile
      obtain ⟨-, mode, hstat⟩ := (hready hfiles).write (by decide) hsymbols
      exact ⟨_, mode, hstat⟩
    · exact ⟨.mlir, htask, rfl⟩

/-- **What a session leaves in a directory that is given and kept**: its files, and what was there
before. -/
theorem fills_of_execute {dir : Path} {w w' : World σ} {report : Report} (hr : r.LeavesFiles)
    (hd : w.disk.Plain) (hdir : s.settings.workingDir = some dir)
    (hkeep : s.settings.keepFiles = true) (h : (s.execute r inputs).run w = (.ok report, w')) :
    s.Fills dir w w' := by
  cases hsteps : s.steps? r inputs with
  | none =>
    obtain ⟨hdisk, -⟩ := untouched_execute hr w fun _ => hsteps
    rw [h] at hdisk
    obtain ⟨events, hjournal, -, haccounts⟩ :=
      accounts_of_no_steps r inputs hsteps h ⟨dir, .given dir, true, false⟩ default
    have hnothing : s.outputs dir = [] ∧ Event.written events = [] := by
      obtain ⟨hfollow, hmlir⟩ := steps?_eq_none_iff.1 hsteps
      rw [haccounts.written, outputs]
      rcases htask : s.task? with _ | _ | _ | _
      · exact ⟨rfl, rfl⟩
      · exact absurd htask hfollow
      · exact absurd htask hmlir
      · exact ⟨rfl, rfl⟩
    refine ⟨fun _ file hfile => ?_, fun loc e hget _ => ?_, events, hjournal, ?_⟩
    · rw [hnothing.1] at hfile
      exact absurd hfile List.not_mem_nil
    · rw [show w'.disk = w.disk from hdisk, hget]
    · rw [hnothing.1, hnothing.2, List.map_nil]
  | some steps =>
    obtain ⟨ws, t, w₁, value, w₂, events, hacquire, hended, hdisk, hjournal, -, haccounts⟩ :=
      accounts_of_steps r inputs hsteps h
    obtain ⟨-, hkept, hpath, -, -⟩ := Workspace.acquire_eq_ok hacquire
    obtain rfl : ws.path = dir := by rw [hpath, hdir]; rfl
    obtain ⟨hchanges, htexts, task, htask, hfiles⟩ :=
      outputs_of_steps hr hd hsteps hacquire hended
    have hsame : w'.disk = w₂.disk := by
      rw [hdisk, Workspace.removal, if_pos (hkept.trans hkeep)]
    rw [← hsame] at hchanges htexts
    refine ⟨htexts, fun loc e hget hother => hchanges.get?_of_apart hget ?_, events, hjournal, ?_⟩
    · intro site hsite
      obtain ⟨file, hfile, rfl⟩ := List.mem_map.1 hsite
      exact hother file hfile
    · rw [haccounts.written, htask, hfiles]
      rfl

/-- A session that builds a program in the directory `work`, and keeps that. -/
def buildingAgain : Session where
  settings := {
    action := .build
    workingDir := some "work"
    keepFiles := true
    exports := ["f"] }
  installation := ⟨"/opt/asli"⟩

/-- A home directory with the directory `work`, in which there is an older script, and a file of the
user. -/
def withStaleFiles : World (List String) where
  disk := {
    tree := {
      entries := [(["home"], .dir 0o755), (["home", "work"], .dir 0o755),
        (["home", "work", "asl2c.prj"], .file (bytesOf ":quit") 0o644),
        (["home", "work", "notes.txt"], .file (bytesOf "mine") 0o600)] }
    cwd := ["home"]
    temp := "/tmp" }
  tools := []

end Session

end AslBuild
