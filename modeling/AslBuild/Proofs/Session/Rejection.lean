import AslBuild.Proofs.Session.Records
import AslBuild.Tool.Rehearsal
set_option autoImplicit false

/-!
# Rejected sessions

A session that is rejected because of its options calls no tool, unless it passes on what a tool
said of them. Nearly always it leaves the files alone as well, since the options are checked before
anything is done. The one exception is a blank in the path of the working directory: it is found
only once the directory was acquired, which then comes to its end like any other.

## Main definitions

* `AslBuild.World.ToolObjected` — a tool was called that objected to the options.
* `AslBuild.Session.BlankFound` — a blank was found in the path of a working directory.

## Main results

* `AslBuild.Session.execute_invalid` — what was done if a session is rejected.
* `AslBuild.Session.exists_invalid_removing` — a session that is rejected, and removes a directory
  that was there before with all that is in it.
-/

namespace AslBuild

open FileSystem

/-- Between two worlds a tool was called that failed with an objection to the options. -/
def World.ToolObjected {σ : Type} (o : Objection) (w w' : World σ) : Prop :=
  ∃ events, w'.journal = w.journal ++ events ∧
    ∃ mode c, (mode, c, some (.invalid o)) ∈ Event.calls events

/-- The objection of a tool stands in a journal that has more before and after. -/
lemma World.ToolObjected.extend {σ : Type} {o : Objection} {w w₁ w₂ w' : World σ}
    {before after : List Event} (h : w₁.ToolObjected o w₂)
    (hbefore : w₁.journal = w.journal ++ before) (hafter : w'.journal = w₂.journal ++ after) :
    w.ToolObjected o w' := by
  obtain ⟨events, hjournal, mode, c, hmem⟩ := h
  refine ⟨before ++ (events ++ after), ?_, mode, c, ?_⟩
  · rw [hafter, hjournal, hbefore]
    simp only [List.append_assoc]
  · rw [Event.calls_append, Event.calls_append]
    exact List.mem_append_right _ (List.mem_append_left _ hmem)

namespace Session

variable {σ : Type} {s : Session} {r : Runner σ} {inputs : List Path} {o : Objection}

/-! ## Where objections come from -/

/-- Nothing that sessions are built from objects to the options but a tool. -/
lemma accepts_objection : Accepts fun f es => ∀ o, f = some (.invalid o) →
    ∃ mode c, (mode, c, some (.invalid o)) ∈ Event.calls es where
  nil := by simp
  append _ h' o ho := by
    obtain ⟨mode, c, hmem⟩ := h' o ho
    rw [Event.calls_append]
    exact ⟨mode, c, List.mem_append_right _ hmem⟩
  said _ := by simp
  wrote _ := by simp
  unwritten _ _ := by simp
  lacking h := by
    rcases Backend.nativeFlags_eq_error h with ⟨-, rfl⟩ | ⟨-, -, rfl⟩ <;> simp
  called _ _ := by simp
  refused mode c e remarks o ho := by
    rw [ho]
    exact ⟨mode, c, List.mem_cons_self⟩

/-- A step that leaves it to the tools to object ends with an objection only if a tool objects. -/
lemma toolObjected_of_records {α : Type} {x : Work σ α} {w : World σ}
    (hx : x.Records fun f es => ∀ o, f = some (.invalid o) →
      ∃ mode c, (mode, c, some (.invalid o)) ∈ Event.calls es)
    (h : (x.run w).1 = .error (.invalid o)) : w.ToolObjected o (x.run w).2 := by
  obtain ⟨events, hjournal, hobjects⟩ := hx w
  exact ⟨events, hjournal, hobjects o (by rw [h]; rfl)⟩

/-- If generating code ends with an objection that is not that of a tool, the path of the working
directory holds a blank, and nothing was done. -/
lemma build_eq_invalid {ws : Workspace} {w : World σ} (hcheck : s.settings.checkPipeline = .ok ())
    (h : ((s.build r inputs ws).run w).1 = .error (.invalid o)) :
    w.ToolObjected o ((s.build r inputs ws).run w).2 ∨
      Text.hasBlank ws.path.text = true ∧ o = .blankInDirectory ws.path.text ∧
        ((s.build r inputs ws).run w).2 = w := by
  cases hp : s.settings.pipelineInto ws.path.text with
  | ok p =>
    have hbuild := (accepts_objection.simulation r).build s inputs ws fun e he => by
      rw [hp] at he
      exact absurd he (by simp)
    exact Or.inl (toolObjected_of_records hbuild h)
  | error e =>
    have hrun : (s.build r inputs ws).run w = (.error e, w) :=
      Act.bind_error (by rw [Act.run_ofExcept, hp])
    rw [hrun] at h ⊢
    obtain rfl : e = .invalid o := Except.error.inj h
    rcases (Settings.pipelineInto_eq_error_iff hcheck).1 hp with ⟨hblank, he⟩ | ⟨-, -, -, he⟩
    · exact Or.inr ⟨hblank, Failure.invalid.inj he, rfl⟩
    · exact absurd he (by simp)

/-- If what a session does in a working directory ends with an objection that is not that of a tool,
the path of the directory holds a blank, and nothing was done. -/
lemma steps_eq_invalid {steps : Workspace → Work σ (Option Path × Statistics)} {ws : Workspace}
    {w : World σ} (hcheck : s.settings.checkPipeline = .ok ())
    (hsteps : s.steps? r inputs = some steps) (h : ((steps ws).run w).1 = .error (.invalid o)) :
    w.ToolObjected o ((steps ws).run w).2 ∨
      Text.hasBlank ws.path.text = true ∧ o = .blankInDirectory ws.path.text ∧
        ((steps ws).run w).2 = w := by
  rcases eq_of_steps? hsteps with rfl | rfl
  · exact build_eq_invalid hcheck h
  · exact Or.inl (toolObjected_of_records
      ((accepts_objection.simulation r).runMlir s inputs ws) h)

/-- The release of a working directory does not object to the options. -/
lemma closing_eq_invalid {ws : Workspace} {d : Disk}
    {outcome : Except Failure (Option Path × Statistics)}
    (h : closing ws outcome (ws.removal d).1 = .error (.invalid o)) :
    outcome = .error (.invalid o) := by
  rcases outcome with e | value
  · exact congrArg _ (Except.error.inj h)
  · cases hremoval : (ws.removal d).1 with
    | ok _ =>
      rw [hremoval] at h
      exact absurd h (by simp [closing])
    | error e =>
      obtain ⟨p, cause, rfl⟩ := Workspace.removal_eq_error hremoval
      rw [hremoval] at h
      exact absurd h (by simp [closing])

/-! ## What was done -/

/-- A working directory was acquired, its path was objected to because of a blank, and it was
released again. -/
def BlankFound (s : Session) (o : Objection) (w w' : World σ) : Prop :=
  let dir := Workspace.acquiredPath s.settings.workingDir w.disk
  Text.hasBlank dir.text = true ∧ o = .blankInDirectory dir.text ∧
    ∃ ws w₁, (Workspace.acquire s.settings.workingDir s.settings.keepFiles s.settings.verbose).run w
      = (.ok ws, w₁) ∧ w' = (ws.release.run w₁).2

/-- Where a blank was found, no tool was called. -/
lemma BlankFound.no_call {w w' : World σ} (h : s.BlankFound o w w') :
    Event.calls w'.journal = Event.calls w.journal ∧ w'.tools = w.tools := by
  obtain ⟨-, -, ws, w₁, hacquire, rfl⟩ := h
  obtain ⟨hopen, -, -, -, hw⟩ := Workspace.acquire_eq_ok hacquire
  have hgreeting : Event.calls [.said (Workspace.greeting s.settings.verbose ws)] = [] := rfl
  rw [Workspace.run_release hopen, hw]
  refine ⟨?_, rfl⟩
  simp only [Event.calls_append, hgreeting, Workspace.calls_farewell, List.append_nil]

/-- If a session that needs no working directory ends with an objection that is not that of a tool,
it was to show a script, and nothing was done. -/
lemma dispatch_eq_invalid {w : World σ} (hsteps : s.steps? r inputs = none)
    (h : ((s.dispatch r inputs).run w).1 = .error (.invalid o)) :
    w.ToolObjected o ((s.dispatch r inputs).run w).2 ∨ ((s.dispatch r inputs).run w).2 = w := by
  have hsim := accepts_objection.simulation r
  unfold steps? at hsteps
  unfold dispatch at h ⊢
  split at h
  · rw [showing]
    cases hscript : s.script with
    | error e => exact Or.inr (by rw [Act.bind_error (Act.run_ofExcept (.error e) w)])
    | ok text =>
      exact Or.inr (by rw [Act.bind_ok (Act.run_ofExcept (.ok text) w), Act.run_pure])
  · exact Or.inl (toolObjected_of_records (hsim.showCompileFlags s) h)
  · exact Or.inl (toolObjected_of_records (hsim.showLinkFlags s) h)
  · exact Or.inl (toolObjected_of_records (hsim.interpret s inputs) h)
  -- what is left needs a working directory
  · simp_all
  · cases ha : s.settings.action <;> cases hb : s.settings.backend <;> simp_all

/-- If a session that needs a working directory ends with an objection that is not that of a tool,
it acquired the directory, and did nothing but release it then. -/
lemma inWorkspace_eq_invalid {steps : Workspace → Work σ (Option Path × Statistics)} {w : World σ}
    (hcheck : s.settings.checkPipeline = .ok ()) (hsteps : s.steps? r inputs = some steps)
    (h : ((s.inWorkspace steps).run w).1 = .error (.invalid o)) :
    w.ToolObjected o ((s.inWorkspace steps).run w).2 ∨
      s.BlankFound o w ((s.inWorkspace steps).run w).2 := by
  cases hacquire : (Workspace.acquire s.settings.workingDir s.settings.keepFiles
    s.settings.verbose).run w with
  | mk result w₁ =>
    cases result with
    | error e =>
      obtain ⟨⟨p, cause, rfl⟩, -, -⟩ := Workspace.acquire_eq_error hacquire
      rw [inWorkspace, Act.bind_error hacquire] at h
      exact absurd (Except.error.inj h) (by simp)
    | ok ws =>
      obtain ⟨hopen, -, hpath, -, hw⟩ := Workspace.acquire_eq_ok hacquire
      have hended : ((steps ws).run w₁).1 = .error (.invalid o) := by
        rw [run_inWorkspace hacquire, Workspace.run_release hopen] at h
        exact closing_eq_invalid h
      rw [run_inWorkspace hacquire]
      rcases steps_eq_invalid hcheck hsteps hended with hobjected | ⟨hblank, ho, hnothing⟩
      · rw [Workspace.run_release hopen]
        exact Or.inl (hobjected.extend (by rw [hw]) rfl)
      · rw [hpath] at hblank ho
        rw [hnothing]
        exact Or.inr ⟨hblank, ho, ws, w₁, hacquire, rfl⟩

/-! ## Main results -/

/-- **What was done if a session is rejected because of its options.** Unless it is a tool that
rejects them, no tool was called. Either nothing at all was done, or a blank was found in the path
of the working directory: then the directory was acquired, and released again. So if the path holds
no blank, nothing was done.

**Proof sketch.** The rules for the settings are checked first, and nothing is done if they are not
kept. After that only the directory of a pipeline can be objected to, and that is the working
directory that was just acquired; a failure of the steps counts for more than one of the release. -/
theorem execute_invalid (s : Session) (r : Runner σ) (inputs : List Path) (w : World σ)
    (o : Objection) (h : ((s.execute r inputs).run w).1 = .error (.invalid o)) :
    let done := ((s.execute r inputs).run w).2
    let dir := Workspace.acquiredPath s.settings.workingDir w.disk
    w.ToolObjected o done ∨
      Event.calls done.journal = Event.calls w.journal ∧ done.tools = w.tools ∧
        (done = w ∨ s.BlankFound o w done) ∧ (Text.hasBlank dir.text = false → done = w) := by
  intro done dir
  suffices hdone : w.ToolObjected o done ∨ done = w ∨ s.BlankFound o w done by
    rcases hdone with hobjected | hsame | hfound
    · exact Or.inl hobjected
    · exact Or.inr ⟨by rw [hsame], by rw [hsame], Or.inl hsame, fun _ => hsame⟩
    · obtain ⟨hcalls, htools⟩ := hfound.no_call
      refine Or.inr ⟨hcalls, htools, Or.inr hfound, fun hnone => ?_⟩
      exact absurd (hnone.symm.trans hfound.1) (by simp)
  cases hcheck : s.settings.checkSession inputs with
  | error e => exact Or.inr (Or.inl (congrArg Prod.snd (run_execute_of_refused hcheck w)))
  | ok _ =>
    have hrun := run_execute (r := r) hcheck w
    have hdispatch : ((s.dispatch r inputs).run w).1 = .error (.invalid o) := by
      rw [hrun] at h
      cases hresult : ((s.dispatch r inputs).run w).1 with
      | error e => rw [hresult] at h; exact congrArg _ (Except.error.inj h)
      | ok report => rw [hresult] at h; exact absurd h (by simp [Except.map])
    have hdone : done = ((s.dispatch r inputs).run w).2 := by
      show ((s.execute r inputs).run w).2 = _
      rw [hrun, hdispatch]
      simp [epilogue]
    rw [hdone]
    cases hsteps : s.steps? r inputs with
    | none => exact (dispatch_eq_invalid hsteps hdispatch).imp_right Or.inl
    | some steps =>
      rw [dispatch_of_steps? hsteps] at hdispatch ⊢
      exact (inWorkspace_eq_invalid (Settings.checkPipeline_of_checkSession hcheck) hsteps
        hdispatch).imp_right Or.inr

/-- A session that generates code in a directory whose path holds a blank. -/
def inMyWork : Session where
  settings := { action := .generate, workingDir := some "my work" }
  installation := ⟨"/opt/asli"⟩

/-- A home directory with notes in the directory `my work`. -/
def withNotes : World (List String) where
  disk := {
    tree := { entries := [(["home"], .dir 0o755), (["home", "my work"], .dir 0o755),
      (["home", "my work", "notes.txt"], .file (bytesOf "mine") 0o644)] }
    cwd := ["home"]
    temp := "/tmp" }
  tools := []

/-- The session is rejected because of the blank. -/
lemma execute_inMyWork :
    ((inMyWork.execute (Rehearsal.runner {}) ["spec.asl"]).run withNotes).1 =
      .error (.invalid (.blankInDirectory "my work")) := by
  have hfailure : Work.failureIn?
      ((inMyWork.execute (Rehearsal.runner {}) ["spec.asl"]).run withNotes).1 =
      some (.invalid (.blankInDirectory "my work")) := by decide +kernel
  exact Work.eq_error_of_failureIn? hfailure

/-- The blank in `my work` is found after the directory was acquired, and no tool is called. -/
theorem execute_invalid_inMyWork :
    let done := (inMyWork.execute (Rehearsal.runner {}) ["spec.asl"]).run withNotes
    done.1 = .error (.invalid (.blankInDirectory "my work")) ∧
      Event.calls done.2.journal = [] ∧ done.2.tools = [] := by
  intro done
  rcases execute_invalid inMyWork (Rehearsal.runner {}) ["spec.asl"] withNotes _
    execute_inMyWork with ⟨events, hjournal, mode, c, hmem⟩ | ⟨hcalls, htools, -, -⟩
  · have hnone : Event.calls done.2.journal = [] := by decide +kernel
    rw [hjournal, Event.calls_append] at hnone
    exact absurd hmem (by rw [(List.append_eq_nil_iff.1 hnone).2]; simp)
  · exact ⟨execute_inMyWork, hcalls, htools⟩

/-- **A session that is rejected may remove what was there before**: the directory `my work` goes
with the notes in it. -/
theorem exists_invalid_removing :
    ∃ (s : Session) (r : Runner (List String)) (inputs : List Path) (w : World (List String))
      (o : Objection) (loc : Location),
      ((s.execute r inputs).run w).1 = .error (.invalid o) ∧
        w.disk.tree.get? loc = some (.file (bytesOf "mine") 0o644) ∧
        ((s.execute r inputs).run w).2.disk.tree.get? loc = none :=
  ⟨inMyWork, Rehearsal.runner {}, ["spec.asl"], withNotes, .blankInDirectory "my work",
    ["home", "my work", "notes.txt"], execute_inMyWork, by decide +kernel, by decide +kernel⟩

end Session

end AslBuild
