import AslBuild.Proofs.Session.Records
import AslBuild.Tool.Rehearsal
set_option autoImplicit false

/-!
# Working directories are removed once

The removal of a working directory is tried just once, or not at all if it is kept, however the
steps in it end and whichever of the mechanisms gets to it first. A failure of the removal never
hides one of the steps.

## Main definitions

* `AslBuild.World.Undisturbed` — nothing was run, written or removed.
* `AslBuild.Workspace.EndsOnce` — the end of a working directory.
* `AslBuild.Workspace.useAll` — files that are written, whatever comes of each.

## Main results

* `AslBuild.Session.execute_removes_once` — a session removes its working directory once, and its
  steps count for more than the removal.
-/

namespace AslBuild

open FileSystem

variable {σ : Type}

/-- Between two worlds nothing was run, said, written or removed: at most there are more
directories. -/
structure World.Undisturbed (w w' : World σ) : Prop where
  /-- Nothing stands in the journal. -/
  journal : w'.journal = w.journal
  /-- No tool was called. -/
  tools : w'.tools = w.tools
  /-- What was there is there, and what is new is directories. -/
  disk : w.disk.Grows w'.disk

namespace Workspace

/-- Between two worlds a working directory came to its end: its removal was tried just once, or not
at all if it is kept, and the files are as that leaves them. -/
structure EndsOnce (ws : Workspace) (w w' : World σ) : Prop where
  /-- The removal was tried once, unless the directory is kept. -/
  removals : Event.removals w'.journal =
    Event.removals w.journal ++ if ws.keep then [] else [ws.path]
  /-- The files are as the removal leaves them. -/
  disk : w'.disk = (ws.removal w.disk).2
  /-- No tool was called. -/
  tools : w'.tools = w.tools

/-- The release of an open working directory is its end. -/
lemma endsOnce_release {ws : Workspace} (h : ws.IsOpen) (w : World σ) :
    ws.EndsOnce w (ws.release.run w).2 := by
  rw [run_release h]
  exact ⟨by simp, rfl, rfl⟩

/-- An open working directory that is let go of comes to its end too. -/
lemma endsOnce_abandon {ws : Workspace} (h : ws.IsOpen) (w : World σ) :
    ws.EndsOnce w (ws.abandon.run w).2 := by
  rw [run_abandon h]
  refine ⟨?_, rfl, rfl⟩
  have hwarning : Event.removals (warning (ws.removal w.disk).1) = [] := by
    cases (ws.removal w.disk).1 <;> rfl
  simp [hwarning]

/-- What may happen while a working directory is in use. -/
inductive Use
  /-- A file is written, wherever it lies. -/
  | write (path : Path) (contents : String)
  /-- Somebody else changes the files. -/
  | meanwhile (change : Disk → Disk)

/-- Use a working directory, whatever comes of each use. -/
def useAll : List Use → Work σ Unit
  | [] => pure ()
  | .write path contents :: rest => do
    let _ ← (write path contents).attempt
    useAll rest
  | .meanwhile change :: rest => do
    Act.update fun w => { w with disk := change w.disk }
    useAll rest

end Workspace

/-! ## What removes nothing -/

/-- The removals of a journal stay if a step adds none. -/
lemma Work.Records.removals_eq {α : Type} {x : Work σ α}
    (h : x.Records fun _ es => Event.removals es = []) (w : World σ) :
    Event.removals (x.run w).2.journal = Event.removals w.journal := by
  obtain ⟨es, hjournal, hes⟩ := h w
  rw [hjournal, Event.removals_append, hes, List.append_nil]

namespace Session

/-- Nothing that sessions are built from removes a working directory. -/
lemma accepts_no_removal : Accepts fun _ es => Event.removals es = [] where
  nil := rfl
  append h h' := by rw [Event.removals_append, h, h', List.append_nil]
  said _ := rfl
  wrote _ := rfl
  unwritten _ _ := rfl
  lacking _ := rfl
  called _ _ := rfl
  refused _ _ _ remarks := Event.removals_map_said remarks

/-- The steps of a session in a working directory remove nothing. -/
lemma removals_steps {s : Session} {r : Runner σ} {inputs : List Path}
    {steps : Workspace → Work σ (Option Path × Statistics)} (h : s.steps? r inputs = some steps)
    (ws : Workspace) (w : World σ) :
    Event.removals ((steps ws).run w).2.journal = Event.removals w.journal := by
  have hsim := accepts_no_removal.simulation r
  have hrecords : (steps ws).Records fun _ es => Event.removals es = [] := by
    rcases eq_of_steps? h with rfl | rfl
    · exact hsim.build s inputs ws fun _ _ w => ⟨[], by simp, rfl⟩
    · exact hsim.runMlir s inputs ws
  exact hrecords.removals_eq w

/-- What is said at the end of a session removes nothing. -/
lemma removals_epilogue (s : Session) (result : Except Failure Report) :
    Event.removals (s.epilogue result) = [] := by
  obtain ⟨remarks, hremarks⟩ := s.exists_remarks_of_epilogue result
  rw [hremarks, Event.removals_map_said]

end Session

namespace Workspace

/-- Using a working directory does not remove it, by induction on the uses. -/
lemma removals_useAll (uses : List Use) (w : World σ) :
    Event.removals ((useAll uses).run w).2.journal = Event.removals w.journal := by
  induction uses generalizing w with
  | nil => rfl
  | cons use rest ih =>
    cases use with
    | write path contents =>
      rw [useAll, Act.bind_ok (Act.run_attempt (write path contents) w), ih]
      exact (Session.accepts_no_removal.write path contents).removals_eq w
    | meanwhile change =>
      rw [useAll, Act.bind_ok (Act.run_update _ w), ih]

variable {requested : Option Path} {keep verbose : Bool} {w w₁ : World σ}

/-- If no working directory can be acquired, nothing was run, written or removed. -/
lemma undisturbed_of_acquire {e : Failure}
    (h : (acquire requested keep verbose).run w = (.error e, w₁)) : w.Undisturbed w₁ := by
  obtain ⟨-, hgrows, hw⟩ := acquire_eq_error h
  exact ⟨by rw [hw], by rw [hw], hgrows⟩

/-- Acquiring a working directory removes nothing. -/
lemma removals_of_acquire {ws : Workspace}
    (h : (acquire requested keep verbose).run w = (.ok ws, w₁)) :
    Event.removals w₁.journal = Event.removals w.journal := by
  obtain ⟨-, -, -, -, hw⟩ := acquire_eq_ok h
  rw [hw, Event.removals_append]
  exact List.append_nil _

end Workspace

/-! ## Main result -/

namespace Session

section

variable {s : Session} {r : Runner σ} {inputs : List Path} {w w₁ : World σ}
  {steps : Workspace → Work σ (Option Path × Statistics)} {ws : Workspace}

/-- What comes of a session in a working directory that was acquired. -/
lemma run_execute_of_acquire (hcheck : s.settings.checkSession inputs = .ok ())
    (hsteps : s.steps? r inputs = some steps)
    (hacquire : (Workspace.acquire s.settings.workingDir s.settings.keepFiles
      s.settings.verbose).run w = (.ok ws, w₁)) :
    let ended := (steps ws).run w₁
    let removed := ws.removal ended.2.disk
    let result := closing ws ended.1 removed.1
    (s.execute r inputs).run w = (result.map trimmed, { ended.2 with
      disk := removed.2
      journal := ended.2.journal ++ ws.farewell ++ s.epilogue result }) := by
  intro ended removed result
  obtain ⟨hopen, -, -, -, -⟩ := Workspace.acquire_eq_ok hacquire
  rw [run_execute hcheck w, dispatch_of_steps? hsteps, run_inWorkspace hacquire,
    Workspace.run_release hopen]

/-- A session that cannot acquire its working directory fails with that. -/
lemma run_execute_of_no_directory {e : Failure}
    (hcheck : s.settings.checkSession inputs = .ok ()) (hsteps : s.steps? r inputs = some steps)
    (hacquire : (Workspace.acquire s.settings.workingDir s.settings.keepFiles
      s.settings.verbose).run w = (.error e, w₁)) :
    (s.execute r inputs).run w = (.error e, w₁) := by
  have hin : (s.inWorkspace steps).run w = (.error e, w₁) := Act.bind_error hacquire
  rw [run_execute hcheck w, dispatch_of_steps? hsteps, hin]
  simp [epilogue, Except.map]

/-- A session that succeeds does what is dispatched, and this succeeds. -/
lemma exists_dispatch_of_execute {report : Report} {w' : World σ}
    (h : (s.execute r inputs).run w = (.ok report, w')) :
    ∃ shown w₁, (s.dispatch r inputs).run w = (.ok shown, w₁) ∧ report = trimmed shown ∧
      w' = { w₁ with journal := w₁.journal ++ s.epilogue (.ok shown) } := by
  cases hcheck : s.settings.checkSession inputs with
  | error e =>
    rw [run_execute_of_refused hcheck] at h
    exact absurd (congrArg Prod.fst h) (by simp)
  | ok _ =>
    rw [run_execute hcheck] at h
    rcases hdone : (s.dispatch r inputs).run w with ⟨e | shown, w₁⟩
    · rw [hdone] at h
      exact absurd (congrArg Prod.fst h) (by simp [Except.map])
    · rw [hdone] at h
      obtain ⟨hreport, rfl⟩ := Prod.mk.inj h
      exact ⟨shown, w₁, rfl, (Except.ok.inj hreport).symm, rfl⟩

/-- **A session that succeeds in a working directory** got past all its parts: its settings were
accepted, the directory was acquired, the steps were done there, and the directory was released. -/
lemma exists_steps_of_execute {report : Report} {w' : World σ}
    (hsteps : s.steps? r inputs = some steps)
    (h : (s.execute r inputs).run w = (.ok report, w')) :
    ∃ ws w₁ value w₂,
      (Workspace.acquire s.settings.workingDir s.settings.keepFiles s.settings.verbose).run w =
        (.ok ws, w₁) ∧ (steps ws).run w₁ = (.ok value, w₂) ∧
        (ws.removal w₂.disk).1 = .ok () ∧
        report = { workspace := if ws.keep then some ws.path else none, executable := value.1,
                   statistics := value.2 } ∧
        w' = { w₂ with
          disk := (ws.removal w₂.disk).2
          journal := w₂.journal ++ ws.farewell ++ s.epilogue (.ok report) } := by
  cases hcheck : s.settings.checkSession inputs with
  | error e =>
    rw [run_execute_of_refused hcheck] at h
    exact absurd (congrArg Prod.fst h) (by simp)
  | ok _ =>
    rcases hacquire : (Workspace.acquire s.settings.workingDir s.settings.keepFiles
      s.settings.verbose).run w with ⟨e | ws, w₁⟩
    · rw [run_execute_of_no_directory hcheck hsteps hacquire] at h
      exact absurd (congrArg Prod.fst h) (by simp)
    · rw [run_execute_of_acquire hcheck hsteps hacquire] at h
      rcases hended : (steps ws).run w₁ with ⟨e | value, w₂⟩
      · rw [hended] at h
        exact absurd (congrArg Prod.fst h) (by simp [closing, Except.map])
      · rw [hended] at h
        dsimp only at h
        cases hremoved : (ws.removal w₂.disk).1 with
        | error e =>
          rw [hremoved] at h
          exact absurd (congrArg Prod.fst h) (by simp [closing, Except.map])
        | ok _ =>
          rw [hremoved] at h
          obtain ⟨hreport, rfl⟩ := Prod.mk.inj h
          obtain rfl := Except.ok.inj hreport
          exact ⟨ws, w₁, value, w₂, rfl, hended, hremoved, rfl, rfl⟩

/-- What is left of a session in a working directory that was acquired: its steps removed nothing,
then the directory came to its end, and a failure of the steps counts for more than one of the
removal. -/
lemma execute_of_acquire (hcheck : s.settings.checkSession inputs = .ok ())
    (hsteps : s.steps? r inputs = some steps)
    (hacquire : (Workspace.acquire s.settings.workingDir s.settings.keepFiles
      s.settings.verbose).run w = (.ok ws, w₁)) :
    let ended := (steps ws).run w₁
    let done := (s.execute r inputs).run w
    Event.removals ended.2.journal = Event.removals w.journal ∧ ws.EndsOnce ended.2 done.2 ∧
      done.1 = (closing ws ended.1 (ws.removal ended.2.disk).1).map trimmed := by
  intro ended done
  have hdone : done = _ := run_execute_of_acquire hcheck hsteps hacquire
  rw [hdone]
  refine ⟨?_, ⟨?_, rfl, rfl⟩, rfl⟩
  · rw [removals_steps hsteps ws w₁, Workspace.removals_of_acquire hacquire]
  · show Event.removals (ended.2.journal ++ ws.farewell ++ _) = _
    rw [Event.removals_append, removals_epilogue, List.append_nil, Event.removals_append,
      Workspace.removals_farewell]

end

/-- **A session removes its working directory once.** If no working directory can be acquired, the
session fails with that, and nothing was run, written or removed. Otherwise the steps are done, and
then the removal is tried just once, or not at all if the directory is kept. The session fails with
the failure of the steps if there is one, else with that of the removal if there is one, and else it
succeeds.

The same holds of any use of a working directory that is acquired, whether it is released at the end
or let go of without that: released, it gives what comes of the removal; let go of, it succeeds, and
a failure of the removal is only logged as a warning.

**Proof sketch.** A directory that was acquired is open, and neither the steps nor other uses remove
anything. What the release of an open directory does, and what letting go of it does, was computed:
of the three mechanisms that can remove it, the first one that gets to it leaves nothing to the
others. What the session says at its end removes nothing. -/
theorem execute_removes_once (s : Session) (r : Runner σ) (inputs : List Path) (w : World σ)
    (steps : Workspace → Work σ (Option Path × Statistics))
    (hcheck : s.settings.checkSession inputs = .ok ()) (hsteps : s.steps? r inputs = some steps) :
    let done := (s.execute r inputs).run w
    (match (Workspace.acquire s.settings.workingDir s.settings.keepFiles
        s.settings.verbose).run w with
      | (.error e, w₁) => done = (.error e, w₁) ∧ w.Undisturbed w₁
      | (.ok ws, w₁) =>
        let ended := (steps ws).run w₁
        ws.keep = s.settings.keepFiles ∧
          Event.removals ended.2.journal = Event.removals w.journal ∧
          ws.EndsOnce ended.2 done.2 ∧
          match ended.1, (ws.removal ended.2.disk).1 with
          | .error e, _ => done.1 = .error e
          | .ok _, .error e => done.1 = .error e
          | .ok _, .ok _ => ∃ report, done.1 = .ok report) ∧
    ∀ (requested : Option Path) (keep verbose : Bool) (uses : List Workspace.Use) (w : World σ),
      match (Workspace.acquire requested keep verbose).run w with
      | (.error _, w₁) => w.Undisturbed w₁
      | (.ok ws, w₁) =>
        let used := ((Workspace.useAll uses).run w₁).2
        let released := ws.release.run used
        let abandoned := ws.abandon.run used
        ws.keep = keep ∧ Event.removals used.journal = Event.removals w.journal ∧
          (ws.EndsOnce used released.2 ∧ released.1 = (ws.removal used.disk).1) ∧
          ws.EndsOnce used abandoned.2 ∧ abandoned.1 = .ok () ∧
          abandoned.2.journal =
            used.journal ++ ws.farewell ++ Workspace.warning (ws.removal used.disk).1 := by
  intro done
  constructor
  · rcases hacquire : (Workspace.acquire s.settings.workingDir s.settings.keepFiles
      s.settings.verbose).run w with ⟨e | ws, w₁⟩
    · exact ⟨run_execute_of_no_directory hcheck hsteps hacquire,
        Workspace.undisturbed_of_acquire hacquire⟩
    · obtain ⟨-, hkeep, -, -, -⟩ := Workspace.acquire_eq_ok hacquire
      obtain ⟨hremovals, hends, hresult⟩ := execute_of_acquire hcheck hsteps hacquire
      refine ⟨hkeep, hremovals, hends, ?_⟩
      rw [hresult]
      rcases ((steps ws).run w₁).1 with e | value
      · rfl
      · rcases (ws.removal ((steps ws).run w₁).2.disk).1 with e | _
        · rfl
        · exact ⟨_, rfl⟩
  · intro requested keep verbose uses w
    rcases hacquire : (Workspace.acquire requested keep verbose).run w with ⟨e | ws, w₁⟩
    · exact Workspace.undisturbed_of_acquire hacquire
    · obtain ⟨hopen, hkeep, -, -, -⟩ := Workspace.acquire_eq_ok hacquire
      have hremovals := Workspace.removals_useAll uses w₁
      have hreleased := Workspace.run_release hopen ((Workspace.useAll uses).run w₁).2
      have habandoned := Workspace.run_abandon hopen ((Workspace.useAll uses).run w₁).2
      refine ⟨hkeep, hremovals.trans (Workspace.removals_of_acquire hacquire),
        ⟨Workspace.endsOnce_release hopen _, ?_⟩, Workspace.endsOnce_abandon hopen _, ?_, ?_⟩
      · rw [hreleased]
      · rw [habandoned]
      · rw [habandoned]

/-- A session that generates MLIR in the directory `work` and runs it. -/
def inWork : Session where
  settings := { action := .run, backend := .mlir, workingDir := some "work" }
  installation := ⟨"/opt/asli"⟩

/-- A home directory with nothing in it. -/
def atHome : World (List String) where
  disk := { tree := { entries := [(["home"], .dir 0o755)] }, cwd := ["home"], temp := "/tmp" }
  tools := []

/-- A rehearsal in which the second tool fails. -/
def withoutMlir : Rehearsal := { failures := [("asl-opt", 3)] }

/-- The second tool fails, and the directory `work` is removed once. -/
theorem execute_removes_once_inWork :
    let done := (inWork.execute withoutMlir.runner ["spec.asl"]).run atHome
    inWork.settings.checkSession ["spec.asl"] = .ok () ∧
      (inWork.steps? withoutMlir.runner ["spec.asl"]).isSome = true ∧
      Work.failureIn? done.1 =
        some (.tool (.failed "asl-opt" "asl-opt --target=exec work/asl.mlir" 3)) ∧
      Event.removals done.2.journal = [⟨"work"⟩] := by
  intro done
  have hcheck : inWork.settings.checkSession ["spec.asl"] = .ok () := rfl
  have hfailure : Work.failureIn? done.1 =
      some (.tool (.failed "asl-opt" "asl-opt --target=exec work/asl.mlir" 3)) := by
    decide +kernel
  refine ⟨hcheck, rfl, hfailure, ?_⟩
  have honce := (execute_removes_once inWork withoutMlir.runner ["spec.asl"] atHome _ hcheck rfl).1
  obtain ⟨ws, w₁, hacquire⟩ : ∃ ws w₁,
      (Workspace.acquire (some "work") false false).run atHome = (.ok ws, w₁) := ⟨_, _, rfl⟩
  obtain ⟨-, -, hpath, -, -⟩ := Workspace.acquire_eq_ok hacquire
  have hpath : ws.path = "work" := hpath
  rw [show (Workspace.acquire inWork.settings.workingDir inWork.settings.keepFiles
    inWork.settings.verbose).run atHome = (.ok ws, w₁) from hacquire] at honce
  obtain ⟨hkeep, hbefore, hends, -⟩ := honce
  rw [hends.removals, hbefore, hkeep, hpath]
  rfl

end Session

end AslBuild
