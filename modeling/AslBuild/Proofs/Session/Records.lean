import AslBuild.Proofs.Session.Steps
import AslBuild.Proofs.Workspace.Lifetime
set_option autoImplicit false

/-!
# What steps add to the journal

Every step adds some events to the journal and then succeeds or fails. A statement about the two,
that holds of the events of single steps and is kept when the events of a step are followed by those
of the next one, holds of whole sessions.

## Main definitions

* `AslBuild.Work.Records` — what a step adds to the journal, and how it ends, are as a statement
  says.
* `AslBuild.Session.Accepts` — a statement that holds of the parts of sessions.
* `AslBuild.Session.AcceptsAll` — one that also holds of failures and of the end of working
  directories.

## Main results

* `AslBuild.Session.Accepts.simulation`, `AslBuild.Session.AcceptsAll.execute` — the statement holds
  of what is done in a working directory, or of whole sessions.
-/

namespace AslBuild

/-- A result with a failure in it is that failure. -/
lemma Work.eq_error_of_failureIn? {α : Type} {x : Except Failure α} {e : Failure}
    (h : failureIn? x = some e) : x = .error e := by
  cases x with
  | ok a => exact absurd h (by simp [failureIn?])
  | error e' => exact congrArg _ (Option.some.inj h)

/-- What is no failure is a value. -/
lemma Work.exists_ok_of_failureIn? {α : Type} {x : Except Failure α} (h : failureIn? x = none) :
    ∃ a, x = .ok a := by
  cases x with
  | ok a => exact ⟨a, rfl⟩
  | error e => exact absurd h (by simp [failureIn?])

/-- What is said changes neither the calls nor the removals of a journal. -/
@[simp] lemma Event.calls_map_said (remarks : List Remark) : calls (remarks.map .said) = [] := by
  simp [calls, call?, List.filterMap_map, Function.comp_def]

@[simp] lemma Event.removals_map_said (remarks : List Remark) :
    removals (remarks.map .said) = [] := by
  simp [removals, removal?, List.filterMap_map, Function.comp_def]

/-- A call counts once, whatever is said after it. -/
lemma Event.calls_called (mode : CallMode) (c : Command) (f : Option Failure)
    (remarks : List Remark) :
    calls (.called mode c f :: remarks.map .said) = [(mode, c, f)] := by
  show (mode, c, f) :: calls (remarks.map .said) = _
  rw [calls_map_said]

/-- A tool that is called adds its call to those of the journal. -/
lemma Work.calls_call {σ α : Type} (mode : CallMode)
    (request : Command → FileSystem.Disk → σ → Reply σ α) (c : Command) (w : World σ) :
    Event.calls ((call mode request c).run w).2.journal =
      Event.calls w.journal ++ [(mode, c, failureIn? (request c w.disk w.tools).result)] :=
  (Event.calls_append _ _).trans (congrArg _ (Event.calls_called _ _ _ _))

/-- What a session tells at its end is only said. -/
lemma Session.exists_remarks_of_epilogue (s : Session) (result : Except Failure Report) :
    ∃ remarks : List Remark, s.epilogue result = remarks.map .said := by
  cases result with
  | error _ => exact ⟨[], rfl⟩
  | ok report =>
    rw [epilogue]
    split
    · exact ⟨[_], rfl⟩
    · exact ⟨[], rfl⟩

/-- Whatever is run, the events that it adds and its failure are as `R` says. -/
def Work.Records {σ α : Type} (R : Option Failure → List Event → Prop) (x : Work σ α) : Prop :=
  ∀ w, ∃ events, (x.run w).2.journal = w.journal ++ events ∧ R (failureIn? (x.run w).1) events

namespace Session

/-- A statement about a failure, or none, and the events in front of it. It holds of what sessions
are built from, and of a sequence if it holds of its parts. -/
structure Accepts (R : Option Failure → List Event → Prop) : Prop where
  /-- It holds where nothing happens. -/
  nil : R none []
  /-- It holds of what happens first, and then of what happens next. -/
  append {f : Option Failure} {es es' : List Event} : R none es → R f es' → R f (es ++ es')
  /-- It holds of what is said. -/
  said (m : Remark) : R none [.said m]
  /-- It holds of a file that is written. -/
  wrote (p : Path) : R none [.wrote p]
  /-- It holds of a failure of the files. -/
  unwritten (p : Path) (cause : IoError) : R (some (.workspace p cause)) []
  /-- It holds where a backend has no native flags. -/
  lacking {env : Environment} {b : Backend} {e : Failure} :
    b.nativeFlags env = .error e → R (some e) []
  /-- It holds of a call that succeeds. -/
  called (mode : CallMode) (c : Command) : R none [.called mode c none]
  /-- It holds of a call that fails, for whatever reason and whatever is said after it. -/
  refused (mode : CallMode) (c : Command) (e : Failure) (remarks : List Remark) :
    R (some e) (.called mode c (some e) :: remarks.map .said)

/-- A statement that also holds of every failure but those of tools, and still holds after the
removal of a working directory was tried. -/
structure AcceptsAll (R : Option Failure → List Event → Prop) : Prop extends Accepts R where
  /-- It holds of failures that are not those of a tool. -/
  fail {e : Failure} : (∀ t, e ≠ .tool t) → R (some e) []
  /-- It still holds after a removal. -/
  removing {f : Option Failure} {es : List Event} (p : Path) : R f es → R f (es ++ [.removing p])

variable {R : Option Failure → List Event → Prop} {σ α β : Type}

namespace Accepts

variable (h : Accepts R)

include h

/-- The statement holds of several remarks. -/
lemma remarks (ms : List Remark) : R none (ms.map .said) := by
  induction ms with
  | nil => exact h.nil
  | cons m ms ih => exact h.append (h.said m) ih

/-- The statement holds of a value. -/
lemma pure (a : α) : (Pure.pure a : Work σ α).Records R := fun w => ⟨[], by simp, h.nil⟩

/-- The statement holds of a sequence if it holds of its parts. -/
lemma bind {x : Work σ α} {f : α → Work σ β} (hx : x.Records R) (hf : ∀ a, (f a).Records R) :
    (x >>= f).Records R := by
  intro w
  obtain ⟨es, hjournal, hR⟩ := hx w
  rcases hrun : x.run w with ⟨e | a, w'⟩
  · rw [hrun] at hjournal hR
    rw [Act.bind_error hrun]
    exact ⟨es, hjournal, hR⟩
  · rw [hrun] at hjournal hR
    obtain ⟨es', hjournal', hR'⟩ := hf a w'
    rw [Act.bind_ok hrun]
    refine ⟨es ++ es', ?_, h.append hR hR'⟩
    rw [hjournal', hjournal, List.append_assoc]

/-- The statement holds of a file that is written, or cannot be. -/
lemma write (path : Path) (contents : String) :
    (Workspace.write path contents : Work σ Unit).Records R := by
  refine h.bind (fun w => ?_) fun _ w => ⟨[.wrote path], rfl, h.wrote path⟩
  rw [Work.run_onDisk]
  refine ⟨[], by simp, ?_⟩
  rcases ((FileSystem.Disk.write path (FileSystem.bytesOf contents)).run w.disk).1 with cause | _
  · exact h.unwritten path cause
  · exact h.nil

/-- The statement holds of a call. -/
lemma call (mode : CallMode) (request : Command → FileSystem.Disk → σ → Reply σ α) (c : Command) :
    (Work.call mode request c).Records R := by
  intro w
  refine ⟨_, rfl, ?_⟩
  show R (Work.failureIn? (request c w.disk w.tools).result) _
  cases (request c w.disk w.tools).result with
  | error e => exact h.refused mode c e _
  | ok a => exact h.append (h.called mode c) (h.remarks _)

/-- **The statement holds of what sessions are built from.** -/
theorem simulation (r : Runner σ) : Simulation (fun _ x _ => x.Records R) r r where
  pure := h.pure
  bind := h.bind
  log _ _ := fun w => ⟨[.said _], rfl, h.said _⟩
  write := h.write
  lacking he := fun w => ⟨[], by simp, h.lacking he⟩
  choose env cxx := by
    unfold Toolchain.choose
    split
    · exact h.bind (fun w => ⟨[], by simp, h.nil⟩) fun _ => h.pure _
    · exact h.pure _
  run := h.call .run r.run
  capture := h.call .capture r.capture

end Accepts

namespace AcceptsAll

variable (h : AcceptsAll R)

include h

/-- The statement still holds after a working directory was released. -/
lemma farewell {f : Option Failure} {es : List Event} (ws : Workspace) (hR : R f es) :
    R f (es ++ ws.farewell) := by
  unfold Workspace.farewell
  split
  · rwa [List.append_nil]
  · exact h.removing ws.path hR

/-- What comes of the steps in a working directory is as the statement says after its release too:
a failure of the steps stays, and one of the release is a failure of the files. -/
lemma closing {ws : Workspace} {d : FileSystem.Disk} {es : List Event}
    {outcome : Except Failure (Option Path × Statistics)} (hR : R (Work.failureIn? outcome) es) :
    R (Work.failureIn? (Session.closing ws outcome (ws.removal d).1)) (es ++ ws.farewell) := by
  rcases outcome with e | ⟨executable, statistics⟩
  · exact h.farewell ws hR
  · cases hremoval : (ws.removal d).1 with
    | ok _ => exact h.farewell ws hR
    | error e =>
      obtain ⟨p, cause, rfl⟩ := Workspace.removal_eq_error hremoval
      have happend := h.append (h.farewell ws hR) (h.unwritten p cause)
      rwa [List.append_nil] at happend

/-- The statement holds of what is done in a working directory and of its release. -/
lemma inWorkspace (s : Session) {steps : Workspace → Work σ (Option Path × Statistics)}
    (hsteps : ∀ ws, (steps ws).Records R) : (s.inWorkspace steps).Records R := by
  intro w
  rcases hacquire : (Workspace.acquire s.settings.workingDir s.settings.keepFiles
    s.settings.verbose).run w with ⟨e | ws, w₁⟩
  · obtain ⟨⟨p, cause, rfl⟩, -, hw⟩ := Workspace.acquire_eq_error hacquire
    rw [Session.inWorkspace, Act.bind_error hacquire]
    exact ⟨[], by rw [hw]; simp, h.unwritten p cause⟩
  · obtain ⟨hopen, -, -, -, hw⟩ := Workspace.acquire_eq_ok hacquire
    obtain ⟨es, hjournal, hR⟩ := hsteps ws w₁
    rw [run_inWorkspace hacquire, Workspace.run_release hopen]
    have hgreeting := h.said (Workspace.greeting s.settings.verbose ws)
    refine ⟨_, ?_, h.append hgreeting (h.closing hR)⟩
    show ((steps ws).run w₁).2.journal ++ ws.farewell = _
    rw [hjournal, hw]
    simp only [List.append_assoc]

/-- **The statement holds of whole sessions.** -/
theorem execute (s : Session) (r : Runner σ) (inputs : List Path) :
    (s.execute r inputs).Records R := by
  have hfull : FullSimulation (fun _ (x : Work σ _) (_ : Work σ _) => x.Records R) r r :=
    { h.simulation r with
      fail := fun he w => ⟨[], by simp, h.fail he⟩
      inWorkspace := fun s => h.inWorkspace s }
  exact hfull.execute s inputs

end AcceptsAll

end Session

end AslBuild
