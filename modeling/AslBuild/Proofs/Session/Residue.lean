import AslBuild.Proofs.FileSystem.Removal
import AslBuild.Proofs.FileSystem.Writing
import AslBuild.Proofs.Session.Cleanup
set_option autoImplicit false

/-!
# What a session leaves behind

A session whose working directory is not kept makes directories on the way to it, writes two files
there, and removes it with all that is in it. So once it has succeeded, nothing is left of it but
the directories on the way. The path of the working directory may be any path. It may lead through
the directory itself and back, as in `work/part/..`; then it leads nowhere as soon as the directory
is empty, and the directory stays.

## Main definitions

* `AslBuild.Runner.LeavesFiles` — a runner that leaves the files alone.
* `AslBuild.World.Wrote`, `AslBuild.World.Untouched` — which files a session wrote, and that it
  changed none.
* `AslBuild.FileSystem.Disk.SparedOutside` — nothing but missing directories on the way was added
  outside of a directory.
* `AslBuild.World.LeavesNothing` — nothing is left of a working directory and its files.
* `AslBuild.Session.RemovalHidden` — the removal failed and nobody is told.

## Main results

* `AslBuild.Session.filled_of_steps` — the steps of a session change at most the files that they
  write.
* `AslBuild.Session.execute_leaves_nothing` — what is left of a session.
* `AslBuild.Session.exists_residue` — sessions of which more is left.
-/

namespace AslBuild

open FileSystem

variable {σ : Type}

/-! ## What is written -/

/-- A runner that leaves the files alone. -/
structure Runner.LeavesFiles (r : Runner σ) : Prop where
  /-- No tool that is run changes them. -/
  run (c : Command) (d : Disk) (state : σ) : (r.run c d state).tree = d.tree
  /-- No tool that is asked changes them. -/
  capture (c : Command) (d : Disk) (state : σ) : (r.capture c d state).tree = d.tree

/-- A rehearsal leaves the files alone. -/
lemma Rehearsal.leavesFiles (r : Rehearsal) : r.runner.LeavesFiles :=
  ⟨fun _ _ _ => rfl, fun _ _ _ => rfl⟩

namespace Event

/-- The file that is written in an event. -/
def written? : Event → Option Path
  | .wrote p => some p
  | _ => none

/-- The files that are written in a journal. -/
def written (journal : List Event) : List Path := journal.filterMap written?

@[simp] lemma written_append (js ks : List Event) :
    written (js ++ ks) = written js ++ written ks := List.filterMap_append

@[simp] lemma written_map_said (remarks : List Remark) : written (remarks.map .said) = [] := by
  simp [written, written?, List.filterMap_map, Function.comp_def]

end Event

namespace World

/-- Between two worlds no files were written but some of the given ones. -/
def Wrote (files : List Path) (w w' : World σ) : Prop :=
  ∃ events, w'.journal = w.journal ++ events ∧ ∀ p ∈ Event.written events, p ∈ files

/-- Between two worlds the files stayed as they are, and none was written. -/
def Untouched (w w' : World σ) : Prop := w'.disk = w.disk ∧ w.Wrote [] w'

variable {files : List Path} {w w' w'' : World σ}

/-- No file is written in events in which none is. -/
lemma wrote_of_events (events : List Event) (hjournal : w'.journal = w.journal ++ events)
    (h : Event.written events = []) : w.Wrote files w' :=
  ⟨events, hjournal, fun p hp => absurd hp (by simp [h])⟩

lemma Wrote.trans (h : w.Wrote files w') (h' : w'.Wrote files w'') : w.Wrote files w'' := by
  obtain ⟨events, hjournal, hevents⟩ := h
  obtain ⟨events', hjournal', hevents'⟩ := h'
  refine ⟨events ++ events', by rw [hjournal', hjournal, List.append_assoc], fun p hp => ?_⟩
  rw [Event.written_append, List.mem_append] at hp
  rcases hp with hp | hp
  · exact hevents p hp
  · exact hevents' p hp

/-- What wrote nothing wrote no other files either. -/
lemma Wrote.of_nil (h : w.Wrote [] w') : w.Wrote files w' := by
  obtain ⟨events, hjournal, hevents⟩ := h
  exact ⟨events, hjournal, fun p hp => absurd (hevents p hp) (by simp)⟩

/-- Nothing happened. -/
lemma Untouched.refl (w : World σ) : w.Untouched w := ⟨rfl, wrote_of_events [] (by simp) rfl⟩

lemma Untouched.trans (h : w.Untouched w') (h' : w'.Untouched w'') : w.Untouched w'' :=
  ⟨h'.1.trans h.1, h.2.trans h'.2⟩

end World

/-! ## The steps of a session -/

namespace Session

variable {s : Session} {r : Runner σ} {inputs : List Path}

/-- A relation of worlds that holds where the files are untouched, and of one thing after another,
holds of all that a session does but of writing files. -/
lemma calling_of_untouched (hr : r.LeavesFiles) {R : World σ → World σ → Prop}
    (hquiet : ∀ w w', w.Untouched w' → R w w') (htrans : ∀ w w' w'', R w w' → R w' w'' → R w w'') :
    Calling (fun α (x : Work σ α) (_ : Work σ α) => ∀ w, R w (x.run w).2) r r where
  pure _ w := hquiet w w (World.Untouched.refl w)
  bind {_ _ x _ f _} hx hf w := by
    have hfirst := hx w
    rcases hrun : x.run w with ⟨e | a, w'⟩
    · rw [hrun] at hfirst
      rw [Act.bind_error hrun]
      exact hfirst
    · rw [hrun] at hfirst
      rw [Act.bind_ok hrun]
      exact htrans _ _ _ hfirst (hf a w')
  log _ _ w := hquiet _ _ ⟨rfl, World.wrote_of_events [.said _] rfl rfl⟩
  lacking _ w := hquiet w w (World.Untouched.refl w)
  choose env cxx w := by
    unfold Toolchain.choose
    split
    · exact hquiet w w (World.Untouched.refl w)
    · exact hquiet w w (World.Untouched.refl w)
  run c w := by
    refine hquiet _ _ ⟨?_, World.wrote_of_events _ rfl ?_⟩
    · show ({ w.disk with tree := (r.run c w.disk w.tools).tree } : Disk) = w.disk
      rw [hr.run]
    · exact Event.written_map_said _
  capture c w := by
    refine hquiet _ _ ⟨?_, World.wrote_of_events _ rfl ?_⟩
    · show ({ w.disk with tree := (r.capture c w.disk w.tools).tree } : Disk) = w.disk
      rw [hr.capture]
    · exact Event.written_map_said _

/-- A session without a working directory leaves the files untouched. -/
lemma untouched_dispatch (hr : r.LeavesFiles) (hsteps : s.steps? r inputs = none) (w : World σ) :
    w.Untouched ((s.dispatch r inputs).run w).2 := by
  have h := calling_of_untouched hr (R := World.Untouched) (fun _ _ h => h)
    fun _ _ _ h h' => h.trans h'
  exact h.dispatch_of_no_steps hsteps (fun _ _ w => World.Untouched.refl w) w

end Session

namespace Workspace

/-- The names of the files that a session writes. -/
def writtenNames : List String := ["asl2c.prj", "config.json"]

/-- The files that a session writes into a directory: the script and the symbol file. -/
def writtenFiles (dir : Path) : List Path := writtenNames.map fun n => dir.join ⟨n⟩

/-- Where these files lie. -/
def sites (d : Disk) (dir : Path) : List Location := writtenNames.map fun n => d.landing dir ++ [n]

/-- The files have names. -/
lemma isFileName_of_mem_writtenNames : ∀ n ∈ writtenNames, Path.IsFileName n := by decide

/-- Between two worlds a session wrote files into a directory, and changed nothing else. -/
structure Filled (dir : Path) (w w' : World σ) : Prop where
  /-- Nothing is different but those files. -/
  disk : w.disk.Changes [] (sites w.disk dir) w'.disk
  /-- No others were written. -/
  wrote : w.Wrote (writtenFiles dir) w'

/-- The files lie where they lay. -/
lemma sites_of_changes {d d' : Disk} {dirs files : List Location} (h : d.Changes dirs files d')
    (dir : Path) : sites d' dir = sites d dir := by
  rw [sites, h.landing, sites]

variable {dir : Path} {w w' w'' : World σ}

/-- Where files are untouched nothing else is changed. -/
lemma filled_of_untouched (h : w.Untouched w') : Filled dir w w' :=
  ⟨h.1 ▸ Disk.Changes.refl _ _ _, h.2.of_nil⟩

lemma Filled.trans (h : Filled dir w w') (h' : Filled dir w' w'') : Filled dir w w'' := by
  exact ⟨h.disk.trans (sites_of_changes h.disk dir ▸ h'.disk), h.wrote.trans h'.wrote⟩

/-- Writing one of the files changes nothing else, whatever comes of it. -/
lemma filled_write (hd : w.disk.Plain) (hdir : w.disk.Holds dir) {n : String}
    (hn : n ∈ writtenNames) (contents : String) :
    Filled dir w ((write (dir.join ⟨n⟩) contents).run w).2 := by
  have hchanges : w.disk.Changes [] (sites w.disk dir)
      ((Disk.write (dir.join ⟨n⟩) (bytesOf contents)).run w.disk).2 := by
    refine (Disk.run_write_plain hd (hdir.names (isFileName_of_mem_writtenNames n hn)) _).1.mono
      (List.Subset.refl _) ?_
    intro loc hloc
    rw [List.mem_singleton.1 hloc]
    exact List.mem_map_of_mem hn
  rcases run_write (dir.join ⟨n⟩) contents w with ⟨cause, hrun⟩ | hrun
  · rw [hrun]
    exact ⟨hchanges, World.wrote_of_events [] (by simp) rfl⟩
  · rw [hrun]
    refine ⟨hchanges, [.wrote (dir.join ⟨n⟩)], rfl, fun p hp => ?_⟩
    obtain rfl : p = dir.join ⟨n⟩ := List.mem_singleton.1 hp
    exact List.mem_map_of_mem hn

end Workspace

namespace Session

variable {s : Session} {r : Runner σ} {inputs : List Path}

/-- **The steps of a session change at most the files that they write**, in the working directory.
-/
theorem filled_of_steps {steps : Workspace → Work σ (Option Path × Statistics)} {ws : Workspace}
    {w : World σ} (hr : r.LeavesFiles) (hsteps : s.steps? r inputs = some steps)
    (hd : w.disk.Plain) (hdir : w.disk.Holds ws.path) :
    Workspace.Filled ws.path w ((steps ws).run w).2 := by
  let R (w w' : World σ) : Prop :=
    w.disk.Plain → w.disk.Holds ws.path → Workspace.Filled ws.path w w'
  have h := calling_of_untouched hr (R := R) (fun _ _ h _ _ => Workspace.filled_of_untouched h)
    fun _ _ _ h h' hd hdir =>
      have hfirst := h hd hdir
      hfirst.trans (h' (hfirst.disk.plain hd) (hfirst.disk.holds hdir))
  have hwrite (n : String) (hn : n ∈ Workspace.writtenNames) (contents : String) (w : World σ) :
      R w ((Workspace.write (ws.path.join ⟨n⟩) contents).run w).2 :=
    fun hd hdir => Workspace.filled_write hd hdir hn contents
  have hsymbols := hwrite "config.json" (by decide)
  rcases eq_of_steps? hsteps with rfl | rfl
  · exact h.build_of_writes s hsymbols inputs
      (fun _ _ w => fun _ _ => Workspace.filled_of_untouched (World.Untouched.refl w))
      (hwrite "asl2c.prj" (by decide)) w hd hdir
  · exact h.runMlir_of_writes s hsymbols inputs w hd hdir

end Session

/-! ## Acquiring and removing -/

namespace Workspace

variable {requested : Option Path} {keep verbose : Bool} {w w₁ : World σ} {ws : Workspace}

/-- Making a working directory changes at most locations on the way to it. -/
lemma changes_enter (hd : w.disk.Plain) (requested : Option Path) (keep : Bool) :
    w.disk.Changes (w.disk.route (acquiredPath requested w.disk)) []
      ((enter requested keep).run w).2.disk := by
  cases requested with
  | some dir =>
    rw [run_enter_given]
    exact Disk.changes_makeDirs hd dir
  | none =>
    obtain ⟨hchanges, -⟩ := Disk.run_makeTemp_plain hd temporaryStem
    rw [run_enter_fresh, acquiredPath, Option.getD_none]
    dsimp only
    exact hchanges

/-- The path of a working directory leads to a directory once that was made. -/
lemma holds_of_enter (hd : w.disk.Plain) (hrequested : requested ≠ some ⟨""⟩)
    (h : ((enter requested keep).run w).1 = .ok ws) :
    ((enter requested keep).run w).2.disk.Holds ws.path := by
  cases requested with
  | some dir =>
    have hdir : dir.text ≠ "" := fun hempty => hrequested (by rw [← hempty])
    rw [run_enter_given] at h ⊢
    obtain ⟨_, hmade, rfl⟩ := map_eq_ok_iff.1 h
    exact Disk.holds_of_makeDirs hd hdir (Prod.ext (mapError_eq_ok_iff.1 hmade) rfl)
  | none =>
    obtain ⟨-, hholds⟩ := Disk.run_makeTemp_plain hd temporaryStem
    rw [run_enter_fresh] at h ⊢
    dsimp only at h ⊢
    obtain ⟨p, hmade, rfl⟩ := map_eq_ok_iff.1 h
    exact (hholds p (mapError_eq_ok_iff.1 hmade)).2

/-- Acquiring a working directory adds to making it only what is said. -/
lemma run_acquire_eq (requested : Option Path) (keep verbose : Bool) (w : World σ) :
    ((acquire requested keep verbose).run w).1 = ((enter requested keep).run w).1 ∧
      ((acquire requested keep verbose).run w).2.disk =
        ((enter requested keep).run w).2.disk := by
  unfold acquire
  rcases hrun : (enter requested keep).run w with ⟨e | ws, w'⟩
  · rw [Act.bind_error hrun]
    exact ⟨rfl, rfl⟩
  · rw [Act.bind_ok hrun]
    exact ⟨rfl, rfl⟩

/-- Acquiring a working directory changes at most locations on the way to it. -/
lemma changes_acquire (hd : w.disk.Plain) (requested : Option Path) (keep verbose : Bool) :
    w.disk.Changes (w.disk.route (acquiredPath requested w.disk)) []
      ((acquire requested keep verbose).run w).2.disk := by
  rw [(run_acquire_eq requested keep verbose w).2]
  exact changes_enter hd requested keep

/-- **Acquiring a working directory** changes at most locations on the way to it, and its path leads
to a directory then. No file is written. -/
theorem run_acquire_plain (hd : w.disk.Plain) (hrequested : requested ≠ some ⟨""⟩)
    (keep verbose : Bool) :
    let done := (acquire requested keep verbose).run w
    w.disk.Changes (w.disk.route (acquiredPath requested w.disk)) [] done.2.disk ∧
      w.Wrote [] done.2 ∧ ∀ ws, done.1 = .ok ws → done.2.disk.Holds ws.path := by
  intro done
  refine ⟨changes_acquire hd requested keep verbose, ?_, fun ws h => ?_⟩
  · rcases hdone : done with ⟨e | ws, w₁⟩
    · obtain ⟨-, -, hw⟩ := acquire_eq_error hdone
      exact World.wrote_of_events [] (by rw [hw, List.append_nil]) rfl
    · obtain ⟨-, -, -, -, hw⟩ := acquire_eq_ok hdone
      exact World.wrote_of_events _ (by rw [hw]) rfl
  · obtain ⟨hresult, hdisk⟩ := run_acquire_eq requested keep verbose w
    rw [hdisk]
    exact holds_of_enter hd hrequested (hresult.symm.trans h)

/-- **Removing a working directory** changes nothing but what is at its location and below, and if
it succeeds the directory is cleared. -/
theorem removal_plain {d : Disk} (hd : d.Plain) (hdir : d.Holds ws.path) (hkeep : ws.keep = false) :
    Disk.Removes (d.landing ws.path) d (ws.removal d).2 ∧
      ((ws.removal d).1 = .ok () → d.Cleared ws.path (ws.removal d).2) := by
  obtain ⟨hremoves, hmissing, hcleared⟩ := Disk.run_removeAll hd hdir
  unfold removal
  rw [hkeep, if_neg Bool.false_ne_true]
  cases horigin : ws.origin with
  | given dir =>
    refine ⟨hremoves, fun h => hcleared ?_⟩
    rw [mapError_eq_ok_iff] at h
    -- the directory was there, so its removal cannot be passed over
    cases hresult : ((Disk.removeAll ws.path).run d).1 with
    | ok _ => rfl
    | error e =>
      rw [hresult, unlessGone, hmissing e hresult] at h
      exact absurd h (by simp)
  | temporary held =>
    refine ⟨hremoves, fun h => hcleared ?_⟩
    exact mapError_eq_ok_iff.1 h

/-! ## What is left -/

/-- Outside of the directory that a path leads to nothing is different, but that directories on the
way to it were made where there was nothing, and that files were written that have one more name in
the directory, that of the script or of the symbol file. -/
def SparedOutside (dir : Path) (d d' : Disk) : Prop :=
  ∀ loc, ¬ d.landing dir <+: loc →
    d'.tree.get? loc = d.tree.get? loc ∨
    (loc ∈ d.route dir ∧ d.tree.get? loc = none ∧ ∃ mode, d'.tree.get? loc = some (.dir mode)) ∨
    ((∃ file ∈ sites d dir, d.tree.Shares loc file) ∧ (d.tree.get? loc).isSome = true ∧
      (∀ mode, d.tree.get? loc ≠ some (.dir mode)) ∧
      ∃ contents mode, d'.tree.get? loc = some (.file contents mode))

/-- Between two worlds a directory was used and removed, and nothing is left of it. Paths are seen
from where they started. -/
structure LeavesNothing (dir : Path) (w w' : World σ) : Prop where
  /-- The path of the directory leads nowhere. -/
  path : ({ w.disk with tree := w'.disk.tree } : Disk).present dir = false
  /-- At most the script and the symbol file were written. -/
  wrote : w.Wrote (writtenFiles dir) w'
  /-- Their paths lead nowhere. -/
  files : ∀ file ∈ writtenFiles dir,
    ({ w.disk with tree := w'.disk.tree } : Disk).present file = false
  /-- Nothing is in the directory. -/
  inside : ∀ loc, Tree.isBelow loc (w.disk.landing dir) = true → isFixed loc = false →
    w'.disk.tree.get? loc = none
  /-- The directory is gone, unless its path leads through something that was in it; then it may be
  left, empty. -/
  root : w'.disk.tree.get? (w.disk.landing dir) = none ∨
    (∃ mode, w'.disk.tree.get? (w.disk.landing dir) = some (.dir mode)) ∧
      ∃ loc ∈ w.disk.route dir,
        Tree.isBelow loc (w.disk.landing dir) = true ∧ isFixed loc = false

variable {dir : Path} {d d' d'' : Disk}

/-- What is made on the way to a directory, written in it and removed with it spares what is outside
of it. -/
lemma sparedOutside_of_changes (h : d.Changes (d.route dir) (sites d dir) d')
    (h' : Disk.Removes (d.landing dir) d' d'') : SparedOutside dir d d'' := by
  intro loc hloc
  have heq : d''.tree.get? loc = d'.tree.get? loc := by
    rcases h' loc with heq | ⟨hbelow, -⟩
    · exact heq
    · exact absurd hbelow hloc
  rw [heq]
  rcases h.entries loc with hsame | hmade | ⟨hwritten, hnot, hfile⟩
  · exact Or.inl hsame
  · exact Or.inr (Or.inl hmade)
  · rcases hwritten with hmem | ⟨hshares, hsome⟩
    · -- the files themselves lie in the directory
      obtain ⟨n, -, rfl⟩ := List.mem_map.1 hmem
      exact absurd (List.prefix_append _ _) hloc
    · exact Or.inr (Or.inr ⟨hshares, hsome, hnot, hfile⟩)

/-- Nothing is left of a directory that is cleared after files were written in it. -/
lemma leavesNothing_of_cleared {w' : World σ} (hwrote : w.Wrote (writtenFiles dir) w')
    (hview : d' = { w.disk with tree := d'.tree }) (hdir : d'.Holds dir)
    (hlinks : w'.disk.tree.LinkFree) (h : d'.Cleared dir w'.disk) : LeavesNothing dir w w' := by
  have hlanding : d'.landing dir = w.disk.landing dir := by rw [hview]; rfl
  have hroute : d'.route dir = w.disk.route dir := by rw [hview]; rfl
  have hseen : ({ d' with tree := w'.disk.tree } : Disk) =
      { w.disk with tree := w'.disk.tree } := by rw [hview]
  refine ⟨hseen ▸ h.present_eq_false hlinks, hwrote, fun file hfile => ?_, hlanding ▸ h.below, ?_⟩
  · obtain ⟨n, hn, rfl⟩ := List.mem_map.1 hfile
    exact hseen ▸ h.present_join_eq_false hlinks hdir.text_ne (isFileName_of_mem_writtenNames n hn)
  · rw [← hlanding, ← hroute]
    refine h.root.imp_right fun ⟨hsame, hthrough⟩ => ⟨?_, hthrough⟩
    rw [hsame]
    exact hdir.dir

/-- No file is written while a working directory is removed. -/
lemma written_farewell (ws : Workspace) : Event.written ws.farewell = [] := by
  unfold farewell
  split <;> rfl

end Workspace

namespace Session

variable {s : Session} {r : Runner σ} {inputs : List Path}

/-- No file is written at the end of a session. -/
lemma written_epilogue (s : Session) (result : Except Failure Report) :
    Event.written (s.epilogue result) = [] := by
  obtain ⟨remarks, hremarks⟩ := s.exists_remarks_of_epilogue result
  rw [hremarks, Event.written_map_said]

/-- The steps of a session failed, and then the removal of its working directory failed too. The
session tells only of the steps. -/
def RemovalHidden (s : Session) (steps : Workspace → Work σ (Option Path × Statistics))
    (w : World σ) (result : Except Failure Report) : Prop :=
  ∃ ws w₁ e e', (Workspace.acquire s.settings.workingDir s.settings.keepFiles
      s.settings.verbose).run w = (.ok ws, w₁) ∧
    ((steps ws).run w₁).1 = .error e ∧ (ws.removal ((steps ws).run w₁).2.disk).1 = .error e' ∧
    result = .error e

/-- A session that needs no working directory, or whose settings are refused, leaves the files
untouched. -/
lemma untouched_execute (hr : r.LeavesFiles) (w : World σ)
    (h : s.settings.checkSession inputs = .ok () → s.steps? r inputs = none) :
    w.Untouched ((s.execute r inputs).run w).2 := by
  cases hcheck : s.settings.checkSession inputs with
  | error e =>
    rw [run_execute_of_refused hcheck]
    exact World.Untouched.refl w
  | ok _ =>
    rw [run_execute hcheck]
    exact (untouched_dispatch hr (h hcheck) w).trans
      ⟨rfl, World.wrote_of_events _ rfl (written_epilogue s _)⟩

section

variable {steps : Workspace → Work σ (Option Path × Statistics)} {ws : Workspace} {w w₁ : World σ}
  (hr : r.LeavesFiles) (hd : w.disk.Plain) (hdir : s.settings.workingDir ≠ some ⟨""⟩)
  (hsteps : s.steps? r inputs = some steps)
  (hacquire : (Workspace.acquire s.settings.workingDir s.settings.keepFiles
    s.settings.verbose).run w = (.ok ws, w₁))

include hr hd hdir hsteps hacquire

/-- Up to the end of its steps a session makes directories on the way to its working directory, and
writes files there. -/
lemma used_of_acquire :
    let ended := (steps ws).run w₁
    w.disk.Changes (w.disk.route ws.path) (Workspace.sites w.disk ws.path) ended.2.disk ∧
      ended.2.disk.Holds ws.path ∧ w.Wrote (Workspace.writtenFiles ws.path) ended.2 := by
  intro ended
  obtain ⟨-, -, hpath, -, -⟩ := Workspace.acquire_eq_ok hacquire
  have hentered := Workspace.run_acquire_plain hd hdir s.settings.keepFiles s.settings.verbose
  rw [hacquire, ← hpath] at hentered
  obtain ⟨hmade, hquiet, hholds⟩ := hentered
  have hfilled := filled_of_steps hr hsteps (hmade.plain hd) (hholds ws rfl)
  have hwritten := hfilled.disk
  rw [Workspace.sites_of_changes hmade] at hwritten
  refine ⟨?_, hwritten.holds (hholds ws rfl), hquiet.of_nil.trans hfilled.wrote⟩
  exact (hmade.mono (List.Subset.refl _) (List.nil_subset _)).trans
    (hwritten.mono (List.nil_subset _) (List.Subset.refl _))

/-- What is left of a session in a working directory that was acquired. -/
lemma residue_of_acquire (hkeep : s.settings.keepFiles = false)
    (hcheck : s.settings.checkSession inputs = .ok ()) :
    let done := (s.execute r inputs).run w
    Workspace.SparedOutside ws.path w.disk done.2.disk ∧
      ((∀ p cause, done.1 ≠ .error (.workspace p cause)) →
        s.RemovalHidden steps w done.1 ∨ Workspace.LeavesNothing ws.path w done.2) := by
  intro done
  obtain ⟨-, hkept, -, -, -⟩ := Workspace.acquire_eq_ok hacquire
  obtain ⟨hchanges, hholds, hwritten⟩ := used_of_acquire hr hd hdir hsteps hacquire
  have hplain := hchanges.plain hd
  obtain ⟨hremoves, hcleared⟩ := Workspace.removal_plain hplain hholds (hkept.trans hkeep)
  have hlanding := hchanges.landing ws.path
  have hdone : done = _ := run_execute_of_acquire hcheck hsteps hacquire
  have hdisk : done.2.disk = (ws.removal ((steps ws).run w₁).2.disk).2 := by rw [hdone]
  have hwrote : w.Wrote (Workspace.writtenFiles ws.path) done.2 := by
    refine hwritten.trans (World.wrote_of_events (ws.farewell ++ s.epilogue
      (closing ws ((steps ws).run w₁).1 (ws.removal ((steps ws).run w₁).2.disk).1)) ?_ ?_)
    · rw [hdone, ← List.append_assoc]
    · rw [Event.written_append, Workspace.written_farewell, written_epilogue]
      rfl
  constructor
  · rw [hdisk]
    exact Workspace.sparedOutside_of_changes hchanges (hlanding ▸ hremoves)
  intro hresult
  rw [hdone] at hresult
  cases hremoved : (ws.removal ((steps ws).run w₁).2.disk).1 with
  | ok _ =>
    refine Or.inr (Workspace.leavesNothing_of_cleared hwrote hchanges.view hholds ?_ ?_)
    · rw [hdisk]
      exact hremoves.linkFree hplain.linkFree
    · rw [hdisk]
      exact hcleared hremoved
  | error e' =>
    obtain ⟨p, cause, rfl⟩ := Workspace.removal_eq_error hremoved
    cases hended : ((steps ws).run w₁).1 with
    | error e =>
      refine Or.inl ⟨ws, w₁, e, _, hacquire, hended, hremoved, ?_⟩
      rw [hdone, hended]
      rfl
    | ok value =>
      rw [hended, hremoved] at hresult
      exact absurd rfl (hresult p cause)

end

/-- **What is left of a session** whose working directory is not kept and is given by no path, or by
one that is not empty. The files hold no symbolic links, and the runner leaves them alone.

If the settings are refused or no working directory is needed, the files are untouched. Otherwise
nothing is different outside of the working directory, but that missing directories on the way to it
may have been made, and that a file of which the script or the symbol file in the directory is
another name may have been written. And if the session ends with anything but a failure of the
files, nothing is left of the directory, or its steps failed and the removal did too, of which the
session does not tell.

**Proof sketch.** Acquiring the directory adds directories on the way to it, and its path leads to a
directory then. The steps write at most two files of that directory. Its removal is tried just once,
and finds it. If it succeeds, the directory is empty, and either gone, or its path leads through
something that was in it. If it fails, this is a failure of the files, which the session ends with
unless its steps failed before. -/
theorem execute_leaves_nothing (s : Session) (r : Runner σ) (inputs : List Path) (w : World σ)
    (hr : r.LeavesFiles) (hplain : w.disk.Plain) (hkeep : s.settings.keepFiles = false)
    (hdir : s.settings.workingDir ≠ some ⟨""⟩) :
    let done := (s.execute r inputs).run w
    match s.settings.checkSession inputs, s.steps? r inputs with
    | .ok _, some steps =>
      let dir := Workspace.acquiredPath s.settings.workingDir w.disk
      Workspace.SparedOutside dir w.disk done.2.disk ∧
        ((∀ p cause, done.1 ≠ .error (.workspace p cause)) →
          s.RemovalHidden steps w done.1 ∨ Workspace.LeavesNothing dir w done.2)
    | _, _ => w.Untouched done.2 := by
  intro done
  rcases hcheck : s.settings.checkSession inputs with e | _
  · exact untouched_execute hr w fun h => absurd (hcheck.symm.trans h) (by simp)
  cases hsteps : s.steps? r inputs with
  | none => exact untouched_execute hr w fun _ => hsteps
  | some steps =>
    dsimp only
    rcases hacquire : (Workspace.acquire s.settings.workingDir s.settings.keepFiles
      s.settings.verbose).run w with ⟨e | ws, w₁⟩
    · -- no directory was acquired, which is a failure of the files
      obtain ⟨⟨p, cause, rfl⟩, -, -⟩ := Workspace.acquire_eq_error hacquire
      obtain ⟨hmade, -, -⟩ :=
        Workspace.run_acquire_plain hplain hdir s.settings.keepFiles s.settings.verbose
      have hdone : done = _ := run_execute_of_no_directory hcheck hsteps hacquire
      rw [hacquire] at hmade
      rw [hdone]
      refine ⟨?_, fun hresult => absurd rfl (hresult p cause)⟩
      exact Workspace.sparedOutside_of_changes
        (hmade.mono (List.Subset.refl _) (List.nil_subset _)) fun _ => Or.inl rfl
    · obtain ⟨-, -, hpath, -, -⟩ := Workspace.acquire_eq_ok hacquire
      rw [← hpath]
      exact residue_of_acquire hr hplain hdir hsteps hacquire hkeep hcheck

/-- A session that generates code in a directory. -/
def generatingIn (dir : Path) : Session where
  settings := { action := .generate, workingDir := some dir }
  installation := ⟨"/opt/asli"⟩

/-- Code is generated in the directory `work`, and nothing is left of it. -/
theorem execute_leaves_nothing_work :
    let done := ((generatingIn "work").execute (Rehearsal.runner {}) ["spec.asl"]).run atHome
    atHome.disk.Plain ∧ Work.failureIn? done.1 = none ∧
      Workspace.LeavesNothing "work" atHome done.2 := by
  intro done
  have hplain : atHome.disk.Plain := Disk.plain_of_isPlain (by decide)
  have hsucceeds : Work.failureIn? done.1 = none := by decide +kernel
  have hresult (e : Failure) : done.1 ≠ .error e := by
    intro h
    rw [h] at hsucceeds
    exact absurd hsucceeds (by simp [Work.failureIn?])
  refine ⟨hplain, hsucceeds, ?_⟩
  have hleft := execute_leaves_nothing (generatingIn "work") (Rehearsal.runner {}) ["spec.asl"]
    atHome (Rehearsal.leavesFiles {}) hplain rfl (by decide)
  have hcheck : (generatingIn "work").settings.checkSession ["spec.asl"] = .ok () := rfl
  have hsteps : (generatingIn "work").steps? (Rehearsal.runner {}) ["spec.asl"] =
      some ((generatingIn "work").build (Rehearsal.runner {}) ["spec.asl"]) := rfl
  rw [hcheck, hsteps] at hleft
  rcases hleft.2 fun p cause => hresult _ with ⟨-, -, e, -, -, -, -, herror⟩ | hnothing
  · exact absurd herror (hresult e)
  · exact hnothing

/-- A home directory with the directory `work`, in which there is a script that has a second name
outside of it. -/
def withLinkedScript : World (List String) where
  disk := {
    tree := {
      entries := [(["home"], .dir 0o755), (["home", "work"], .dir 0o755),
        (["home", "work", "asl2c.prj"], .file (bytesOf "mine") 0o644),
        (["home", "mine.prj"], .file (bytesOf "mine") 0o644)]
      twins := [[["home", "work", "asl2c.prj"], ["home", "mine.prj"]]] }
    cwd := ["home"]
    temp := "/tmp" }
  tools := []

/-- A rehearsal in which the compiler fails. -/
def withoutCompiler : Rehearsal := { failures := [("--batchmode", 2)] }

/-- **More may be left of a session.** If a tool fails and the path of the working directory ends in
a dot, the directory stays, since a directory is not removed by such a path, and the session tells
only of the tool. If the path is empty, the script stays in the directory of the process. And a file
outside of the working directory is written if the script in it is another name of this file. -/
theorem exists_residue :
    (∃ (s : Session) (r : Runner (List String)) (inputs : List Path) (w : World (List String))
      (dir : Path), r.LeavesFiles ∧ w.disk.Plain ∧ s.settings.keepFiles = false ∧
        s.settings.workingDir = some dir ∧
        (∃ t, ((s.execute r inputs).run w).1 = .error (.tool t)) ∧
        ((s.execute r inputs).run w).2.disk.present dir = true) ∧
    (∃ (s : Session) (r : Runner (List String)) (inputs : List Path) (w : World (List String))
      (file : Path), r.LeavesFiles ∧ w.disk.Plain ∧ s.settings.keepFiles = false ∧
        s.settings.workingDir = some ⟨""⟩ ∧
        Work.failureIn? ((s.execute r inputs).run w).1 = none ∧
        file ∈ Event.written ((s.execute r inputs).run w).2.journal ∧
        ((s.execute r inputs).run w).2.disk.present file = true) ∧
    ∃ (s : Session) (r : Runner (List String)) (inputs : List Path) (w : World (List String))
      (dir : Path) (loc : Location), r.LeavesFiles ∧ w.disk.Plain ∧ s.settings.keepFiles = false ∧
        s.settings.workingDir = some dir ∧
        Work.failureIn? ((s.execute r inputs).run w).1 = none ∧
        ¬ w.disk.landing dir <+: loc ∧ (w.disk.tree.get? loc).isSome = true ∧
        ((s.execute r inputs).run w).2.disk.tree.get? loc ≠ w.disk.tree.get? loc := by
  refine ⟨⟨generatingIn "work/.", withoutCompiler.runner, ["spec.asl"], withLinkedScript, "work/.",
      Rehearsal.leavesFiles _, Disk.plain_of_isPlain (by decide), rfl, rfl, ?_, by decide +kernel⟩,
    ⟨generatingIn "", Rehearsal.runner {}, ["spec.asl"], atHome, "asl2c.prj",
      Rehearsal.leavesFiles _, Disk.plain_of_isPlain (by decide), rfl, rfl, by decide +kernel,
      by decide +kernel, by decide +kernel⟩,
    ⟨generatingIn "work", Rehearsal.runner {}, ["spec.asl"], withLinkedScript, "work",
      ["home", "mine.prj"], Rehearsal.leavesFiles _, Disk.plain_of_isPlain (by decide), rfl, rfl,
      by decide +kernel, by decide, by decide, by decide +kernel⟩⟩
  have hfailure : Work.failureIn? (((generatingIn "work/.").execute withoutCompiler.runner
      ["spec.asl"]).run withLinkedScript).1 =
        some (.tool (((generatingIn "work/.").generateCommand
          { path := "work/.", origin := .given "work/.", keep := false } ["spec.asl"]).failed 2)) :=
    by decide +kernel
  exact ⟨_, Work.eq_error_of_failureIn? hfailure⟩

end Session

end AslBuild
