import AslBuild.Proofs.FileSystem.Growth
import AslBuild.Workspace
set_option autoImplicit false

/-!
# The lifetime of a working directory

A working directory is acquired, used, and then released or let go of. Three mechanisms can remove
it, and each looks at what the others left behind. Here it is computed what every one of them does
to a directory that is open: the outcome, the files, and what stands in the journal.

## Main definitions

* `AslBuild.Workspace.IsOpen` — the working directory was acquired and is neither released nor let
  go of.
* `AslBuild.Workspace.removal` — what comes of removing it, and the files after that.
* `AslBuild.Workspace.farewell` — what the journal says of that.

## Main results

* `AslBuild.Workspace.acquire_eq_ok`, `AslBuild.Workspace.acquire_eq_error` — what is known once a
  working directory is acquired, or cannot be.
* `AslBuild.Workspace.run_release`, `AslBuild.Workspace.run_abandon` — an open working directory is
  removed just once, or not at all if it is kept, however its life ends.
-/

namespace AslBuild

open FileSystem

namespace Event

/-- The directory whose removal an event tries. -/
def removal? : Event → Option Path
  | .removing dir => some dir
  | _ => none

/-- The directories whose removal was tried, once for each attempt. -/
def removals (journal : List Event) : List Path := journal.filterMap removal?

@[simp] theorem removals_append (js ks : List Event) :
    removals (js ++ ks) = removals js ++ removals ks := List.filterMap_append

end Event

namespace Work

variable {σ α : Type}

/-- A step over the files leaves the journal and the runner alone. -/
lemma run_onDisk (wrap : IoError → Failure) (x : Disk.Step α) (w : World σ) :
    (onDisk wrap x).run w =
      ((x.run w.disk).1.mapError wrap, { w with disk := (x.run w.disk).2 }) := rfl

end Work

namespace Workspace

variable {σ : Type}

/-- A working directory that was acquired and is still in use: it was not released, and it holds the
temporary directory behind it, if there is one. -/
structure IsOpen (ws : Workspace) : Prop where
  /-- It was not released. -/
  unreleased : ws.released = false
  /-- It is the directory that was given, or holds the temporary directory. -/
  origin : ws.origin = .given ws.path ∨ ws.origin = .temporary (some ⟨ws.path, ws.keep⟩)

/-! ## Acquiring -/

/-- The path of the working directory that is acquired. -/
def acquiredPath (requested : Option Path) (d : Disk) : Path :=
  requested.getD (d.freshPath temporaryStem)

/-- A temporary directory has the path that is fresh. -/
lemma path_of_makeTemp {stem : String} {d d' : Disk} {p : Path}
    (h : (Disk.makeTemp stem).run d = (.ok p, d')) : p = d.freshPath stem := by
  rw [Disk.run_makeTemp] at h
  obtain ⟨_, -, hpath⟩ := map_eq_ok_iff.1 (congrArg Prod.fst h)
  exact hpath.symm

/-- What comes of making the directory that is given. -/
lemma run_enter_given (dir : Path) (keep : Bool) (w : World σ) :
    let made := (Disk.makeDirs dir).run w.disk
    (enter (some dir) keep).run w =
      ((made.1.mapError (.workspace dir)).map fun _ => ⟨dir, .given dir, keep, false⟩,
        { w with disk := made.2 }) := by
  intro made
  rw [enter, Act.run_bind_pure, Work.run_onDisk]

/-- What comes of making a fresh directory. -/
lemma run_enter_fresh (keep : Bool) (w : World σ) :
    let made := (Disk.makeTemp temporaryStem).run w.disk
    (enter none keep).run w =
      ((made.1.mapError (.workspace w.disk.temp)).map fun dir =>
          ⟨dir, .temporary (some ⟨dir, keep⟩), keep, false⟩,
        { w with disk := made.2 }) := by
  intro made
  rw [enter, Act.bind_ok (Act.run_read w)]
  dsimp only
  rw [Act.run_bind_pure, Work.run_onDisk]

/-- Making or entering a directory fails at the files, and otherwise gives an open working
directory. Either way only directories are added, and neither the journal nor the runner changes. -/
lemma run_enter (requested : Option Path) (keep : Bool) (w : World σ) :
    ∃ d, w.disk.Grows d ∧
      ((∃ p cause,
          (enter requested keep).run w = (.error (.workspace p cause), { w with disk := d })) ∨
        ∃ ws, (enter requested keep).run w = (.ok ws, { w with disk := d }) ∧ ws.IsOpen ∧
          ws.keep = keep ∧ ws.path = acquiredPath requested w.disk) := by
  cases requested with
  | some dir =>
    refine ⟨((Disk.makeDirs dir).run w.disk).2, Disk.grows_makeDirs dir w.disk, ?_⟩
    rw [run_enter_given]
    rcases ((Disk.makeDirs dir).run w.disk).1 with e | _
    · exact Or.inl ⟨dir, e, rfl⟩
    · exact Or.inr ⟨_, rfl, ⟨rfl, Or.inl rfl⟩, rfl, rfl⟩
  | none =>
    refine ⟨((Disk.makeTemp temporaryStem).run w.disk).2,
      Disk.grows_makeTemp temporaryStem w.disk, ?_⟩
    rw [run_enter_fresh]
    rcases hmake : (Disk.makeTemp temporaryStem).run w.disk with ⟨e | p, d⟩
    · exact Or.inl ⟨w.disk.temp, e, rfl⟩
    · have hpath : p = acquiredPath none w.disk := by
        rw [acquiredPath, Option.getD_none]
        exact path_of_makeTemp hmake
      exact Or.inr ⟨_, rfl, ⟨rfl, Or.inr rfl⟩, rfl, hpath⟩

variable {requested : Option Path} {keep verbose : Bool} {w w' : World σ}

/-- What is said when a working directory is acquired. -/
def greeting (verbose : Bool) (ws : Workspace) : Remark :=
  .logged (Level.progress verbose) ("# In working directory " ++ ws.path.text)

/-- What comes of acquiring the directory that is given. -/
lemma run_acquire_given (dir : Path) (keep verbose : Bool) (w : World σ) :
    let ws : Workspace := ⟨dir, .given dir, keep, false⟩
    (acquire (some dir) keep verbose).run w =
      match (Disk.makeDirs dir).run w.disk with
      | (.error cause, d) => (.error (.workspace dir cause), { w with disk := d })
      | (.ok _, d) => (.ok ws, { w with
          disk := d
          journal := w.journal ++ [.said (greeting verbose ws)] }) := by
  intro ws
  have henter := run_enter_given dir keep w
  rcases hmade : (Disk.makeDirs dir).run w.disk with ⟨cause | ⟨⟩, d⟩
  · rw [hmade] at henter
    exact Act.bind_error henter
  · rw [hmade] at henter
    exact Act.bind_ok henter

/-- **What is known of a working directory that was acquired**: it is open, it has the path and the
fate that were asked for, it was announced, and only directories were added. -/
theorem acquire_eq_ok {ws : Workspace} (h : (acquire requested keep verbose).run w = (.ok ws, w')) :
    ws.IsOpen ∧ ws.keep = keep ∧ ws.path = acquiredPath requested w.disk ∧
      w.disk.Grows w'.disk ∧
        w' = { w with
          disk := w'.disk
          journal := w.journal ++ [.said (greeting verbose ws)] } := by
  obtain ⟨d, hgrows, ⟨p, cause, hrun⟩ | ⟨ws', hrun, hopen, hkeep, hpath⟩⟩ :=
    run_enter requested keep w
  · rw [acquire, Act.bind_error hrun] at h
    exact absurd (congrArg Prod.fst h) (by simp)
  · rw [acquire, Act.bind_ok hrun] at h
    obtain ⟨hws, hw⟩ := Prod.mk.inj h
    obtain rfl : ws' = ws := Except.ok.inj hws
    subst hw
    exact ⟨hopen, hkeep, hpath, hgrows, rfl⟩

/-- **What is known if no working directory can be acquired**: the failure is one of the files, only
directories were added, and neither the journal nor the runner has changed. -/
theorem acquire_eq_error {e : Failure}
    (h : (acquire requested keep verbose).run w = (.error e, w')) :
    (∃ p cause, e = .workspace p cause) ∧ w.disk.Grows w'.disk ∧
      w' = { w with disk := w'.disk } := by
  obtain ⟨d, hgrows, ⟨p, cause, hrun⟩ | ⟨ws', hrun, -, -, -⟩⟩ := run_enter requested keep w
  · rw [acquire, Act.bind_error hrun] at h
    obtain ⟨he, hw⟩ := Prod.mk.inj h
    subst hw
    exact ⟨⟨p, cause, (Except.error.inj he).symm⟩, hgrows, rfl⟩
  · rw [acquire, Act.bind_ok hrun] at h
    obtain ⟨hws, -⟩ := Prod.mk.inj h
    exact absurd hws (by simp)

/-! ## Writing -/

/-- What comes of writing a file: a failure of the files, or an event in the journal. -/
lemma run_write (path : Path) (contents : String) (w : World σ) :
    let d := ((Disk.write path (bytesOf contents)).run w.disk).2
    (∃ cause, (write path contents).run w =
        (.error (.workspace path cause), { w with disk := d })) ∨
      (write path contents).run w =
        (.ok (), { w with disk := d, journal := w.journal ++ [.wrote path] }) := by
  intro d
  have hrun := Work.run_onDisk (.workspace path) (Disk.write path (bytesOf contents)) w
  rw [write]
  cases hwrite : ((Disk.write path (bytesOf contents)).run w.disk).1 with
  | error cause =>
    rw [hwrite] at hrun
    exact Or.inl ⟨cause, Act.bind_error hrun⟩
  | ok _ =>
    rw [hwrite] at hrun
    exact Or.inr (Act.bind_ok hrun)

/-! ## Removing -/

/-- What comes of removing a working directory, and the files after that. One that is kept stays as
it is. A given directory may be gone already, a temporary one may not, and its failure names it. -/
def removal (ws : Workspace) (d : Disk) : Except Failure Unit × Disk :=
  if ws.keep then (.ok (), d)
  else
    let removed := (Disk.removeAll ws.path).run d
    match ws.origin with
    | .given _ => ((unlessGone removed.1).mapError (.workspace ws.path), removed.2)
    | .temporary _ =>
      (removed.1.mapError fun e => .workspace ws.path (.atPath e ws.path), removed.2)

/-- What the journal says of the removal of a working directory. -/
def farewell (ws : Workspace) : List Event := if ws.keep then [] else [.removing ws.path]

/-- The removal of a working directory fails at the files. -/
lemma removal_eq_error {ws : Workspace} {d : Disk} {e : Failure}
    (h : (ws.removal d).1 = .error e) : ∃ p cause, e = .workspace p cause := by
  unfold removal at h
  split at h
  · exact absurd h (by simp)
  dsimp only at h
  split at h
  · cases hr : unlessGone ((Disk.removeAll ws.path).run d).1 with
    | error cause =>
      rw [hr] at h
      exact ⟨_, cause, (Except.error.inj h).symm⟩
    | ok _ =>
      rw [hr] at h
      exact absurd (show (Except.ok () : Except Failure Unit) = .error e from h) (by simp)
  · cases hr : ((Disk.removeAll ws.path).run d).1 with
    | error cause =>
      rw [hr] at h
      exact ⟨_, _, (Except.error.inj h).symm⟩
    | ok _ =>
      rw [hr] at h
      exact absurd (show (Except.ok () : Except Failure Unit) = .error e from h) (by simp)

/-- No tool is called when a working directory is removed. -/
@[simp] lemma calls_farewell (ws : Workspace) : Event.calls ws.farewell = [] := by
  unfold farewell
  split <;> rfl

/-- The removal of a working directory is tried once, unless it is kept. -/
@[simp] lemma removals_farewell (ws : Workspace) :
    Event.removals ws.farewell = if ws.keep then [] else [ws.path] := by
  unfold farewell
  split <;> rfl

/-- What is said of a removal that nobody can be told of. -/
def warning : Except Failure Unit → List Event
  | .ok () => []
  | .error failure => [.said (.logged .warn failure.message)]

lemma run_tryRemove (dir : Path) (w : World σ) :
    (tryRemove dir).run w = (.ok ((Disk.removeAll dir).run w.disk).1,
      { w with
        disk := ((Disk.removeAll dir).run w.disk).2
        journal := w.journal ++ [.removing dir] }) := rfl

lemma run_closeTemp (t : TempDir) (w : World σ) :
    (closeTemp t).run w =
      (.ok (((Disk.removeAll t.path).run w.disk).1.mapError fun e => .atPath e t.path),
        { w with
          disk := ((Disk.removeAll t.path).run w.disk).2
          journal := w.journal ++ [.removing t.path] }) := rfl

lemma run_warnOf (outcome : Except Failure Unit) (w : World σ) :
    (warnOf outcome).run w = (.ok (), { w with journal := w.journal ++ warning outcome }) := by
  rcases outcome with failure | ⟨⟩
  · rfl
  · simp [warnOf, warning]

/-- Cleaning up removes the working directory, and what then is left of it has nothing more to
remove. -/
lemma run_cleanUp (ws : Workspace)
    (h : ws.origin = .given ws.path ∨ ws.origin = .temporary (some ⟨ws.path, ws.keep⟩))
    (w : World σ) :
    ∃ ws', ws'.released = ws.released ∧
      (∀ w : World σ, (dropOrigin ws'.origin).run w = (.ok (), w)) ∧
      ws.cleanUp.run w = (.ok ((ws.removal w.disk).1, ws'),
        { w with disk := (ws.removal w.disk).2, journal := w.journal ++ ws.farewell }) := by
  unfold cleanUp removal farewell
  by_cases hkeep : ws.keep = true
  · refine ⟨ws, rfl, fun w => ?_, by simp [hkeep]⟩
    rcases h with h | h <;> simp [h, dropOrigin, dropTemp, hkeep]
  · rw [if_neg hkeep, if_neg hkeep, if_neg hkeep]
    rcases h with h | h
    · refine ⟨ws, rfl, fun w => by simp [h, dropOrigin], ?_⟩
      simp only [h]
      rw [Act.bind_ok (run_tryRemove ws.path w)]
      rfl
    · refine ⟨{ ws with origin := .temporary none }, rfl, fun w => rfl, ?_⟩
      simp only [h]
      rw [Act.bind_ok (run_closeTemp _ w)]
      rcases ((Disk.removeAll ws.path).run w.disk).1 with e | ⟨⟩ <;> rfl

/-! ## The end -/

/-- **Releasing an open working directory** removes it just once, unless it is kept, and gives what
comes of that. Letting go of it afterwards does nothing more. -/
theorem run_release {ws : Workspace} (h : ws.IsOpen) (w : World σ) :
    ws.release.run w = ((ws.removal w.disk).1,
      { w with disk := (ws.removal w.disk).2, journal := w.journal ++ ws.farewell }) := by
  obtain ⟨ws', hreleased, hdrop, hrun⟩ := run_cleanUp { ws with released := true } h.origin w
  have habandon : ∀ w : World σ, ws'.abandon.run w = (.ok (), w) := by
    intro w
    rw [abandon, hreleased, if_pos rfl]
    exact hdrop w
  rw [release, Act.bind_ok hrun]
  dsimp only
  rw [Act.bind_ok (habandon _)]
  rfl

/-- **Letting go of an open working directory without releasing it** removes it just once, unless it
is kept. That always succeeds: if the removal fails, its message is logged as a warning. -/
theorem run_abandon {ws : Workspace} (h : ws.IsOpen) (w : World σ) :
    ws.abandon.run w = (.ok (),
      { w with
        disk := (ws.removal w.disk).2
        journal := w.journal ++ ws.farewell ++ warning (ws.removal w.disk).1 }) := by
  obtain ⟨ws', -, hdrop, hrun⟩ := run_cleanUp ws h.origin w
  rw [abandon, h.unreleased, if_neg Bool.false_ne_true, Act.bind_ok hrun]
  dsimp only
  rw [Act.bind_ok (run_warnOf _ _)]
  exact hdrop _

end Workspace

end AslBuild
